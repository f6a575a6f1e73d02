import FrontMatter.Proofs.DocumentPlaces

/-!
# `FrontMatter.Proofs.DocumentEntries` — the entries of the places are the documents

An entry of a tree is what names lead down to, one directory after the other. A path is followed
from the root of the tree instead, up as well as down. In a tree of a file system both find the
same, so that the documents are the entries of their places that have the name of a document, each
of them once and in the order of the written paths; and the warning names those that stand a
directory too high. A path with an anchor leads to no entry, so there are no documents and no
warning below a docs root with one.

## Contents

* `Tree.Leads`, `Tree.IsFileSystem`: the parts of a tree by their names, and the trees of a file
  system.
* `isFileSystem_ofFiles`: trees that are built are such.
* `walk_append_iff`, `Tree.HasEntry`, `mem_entriesAt_iff`: paths lead to the entries.
* `IsDocument`, `mem_documentPaths_iff`: the paths of documents are those of entries.
* `sorted_mergeSort_of_nodup`, `sorted_discover`: distinct texts in order.
* `mem_misplaced_iff`: the misplaced bindings.
* `discover_entries`: the documents and the warning of a tree.
* `layoutTree`: a tree with entries in all places.
-/

namespace FrontMatter

open Text (Path)

/-! ## Entries -/

namespace Tree

/-- Names that lead down from a tree to a part of it, one directory after the other. -/
inductive Leads : Tree → List String → Tree → Prop
  | here (t : Tree) : Leads t [] t
  | down {cs : Entries Tree} {name : String} {u t : Tree} {names : List String}
      (entry : (name, u) ∈ cs) (below : Leads u names t) : Leads (.directory cs) (name :: names) t

/-- The trees of a file system, in which no entry has the name that leads back up. -/
structure IsFileSystem (t : Tree) : Prop where
  wellNamed : t.WellNamed
  noUp : ∀ {names u}, t.Leads names u → ".." ∉ names

/-- Names lead on from where the first of them lead. -/
theorem leads_append_iff {t u : Tree} {names rest : List String} :
    t.Leads (names ++ rest) u ↔ ∃ v, t.Leads names v ∧ v.Leads rest u := by
  constructor
  · intro h
    induction names generalizing t with
    | nil => exact ⟨t, .here t, h⟩
    | cons name names ih =>
      cases h with
      | down entry below =>
        obtain ⟨v, hv, hrest⟩ := ih below
        exact ⟨v, .down entry hv, hrest⟩
  · rintro ⟨v, hv, hrest⟩
    induction hv with
    | here t => exact hrest
    | down entry _ ih => exact .down entry (ih hrest)

/-- One name leads to an entry. -/
theorem leads_singleton_iff {t u : Tree} {name : String} :
    t.Leads [name] u ↔ (name, u) ∈ t.children := by
  constructor
  · intro h
    cases h with
    | down entry below =>
      cases below with
      | here => exact entry
  · intro h
    cases t with
    | file bytes => cases h
    | directory cs => exact .down h (.here u)

/-- What names lead to is a tree of a file system. -/
theorem IsFileSystem.of_leads {t u : Tree} (h : t.IsFileSystem) {names : List String}
    (hu : t.Leads names u) : u.IsFileSystem := by
  induction hu with
  | here => exact h
  | down entry _ ih =>
    refine ih ⟨(h.wellNamed.below_of_mem entry).2, fun hbelow hup => ?_⟩
    exact h.noUp (.down entry hbelow) (List.mem_cons_of_mem _ hup)

/-- A directory is one of a file system if its entries are. -/
theorem isFileSystem_directory {cs : Entries Tree} (distinct : cs.keys.Nodup)
    (names : ∀ e ∈ cs, IsFileName e.1 ∧ e.1 ≠ "..") (below : ∀ e ∈ cs, e.2.IsFileSystem) :
    (directory cs).IsFileSystem := by
  refine ⟨.directory distinct (fun e he => (names e he).1) fun e he => (below e he).wellNamed, ?_⟩
  intro path u hu
  cases hu with
  | here => exact List.not_mem_nil
  | down entry hbelow =>
    rw [List.mem_cons, not_or]
    exact ⟨Ne.symm (names _ entry).2, (below _ entry).noUp hbelow⟩

/-- A file is a tree of a file system. -/
theorem isFileSystem_file (bytes : List UInt8) : (file bytes).IsFileSystem := by
  refine ⟨.file bytes, fun hu => ?_⟩
  cases hu with
  | here => exact List.not_mem_nil

/-- The directory without anything in it. -/
theorem isFileSystem_empty : empty.IsFileSystem :=
  isFileSystem_directory List.nodup_nil (by simp) (by simp)

/-- The trees in a directory. -/
theorem IsFileSystem.below_of_mem {t : Tree} (h : t.IsFileSystem) {e : String × Tree}
    (he : e ∈ t.children) : (IsFileName e.1 ∧ e.1 ≠ "..") ∧ e.2.IsFileSystem := by
  have hleads : t.Leads [e.1] e.2 := leads_singleton_iff.mpr he
  have hup := h.noUp hleads
  rw [List.mem_singleton] at hup
  exact ⟨⟨(h.wellNamed.below_of_mem he).1, Ne.symm hup⟩, h.of_leads hleads⟩

/-- A directory into which a tree is put under a name is one of a file system, if the tree is. -/
theorem isFileSystem_put {t u : Tree} {name : String} (ht : t.IsFileSystem)
    (hname : IsFileName name ∧ name ≠ "..") (hu : u.IsFileSystem) :
    (directory (Table.put t.children name u)).IsFileSystem := by
  refine isFileSystem_directory (Table.nodup_keys_put ht.wellNamed.nodup_keys name u) ?_ ?_
  · intro e he
    rcases Table.mem_of_mem_put he with he | rfl
    · exact (ht.below_of_mem he).1
    · exact hname
  · intro e he
    rcases Table.mem_of_mem_put he with he | rfl
    · exact (ht.below_of_mem he).2
    · exact hu

/-- A tree that is built from the paths of its files is one of a file system. -/
theorem isFileSystem_ofFiles {files : List (Path × Option (List UInt8))}
    (h : ∀ f ∈ files, ∀ n ∈ f.1.parts, IsFileName n ∧ n ≠ "..") : (ofFiles files).IsFileSystem :=
  ofFiles_induction isFileSystem_file isFileSystem_empty (fun _ ht _ he => (ht.below_of_mem he).2)
    (fun _ _ _ => isFileSystem_put) h

/-- A path leads from a tree of a file system to such a tree. -/
theorem isFileSystem_at? {root t : Tree} (h : root.IsFileSystem) {p : Path}
    (ht : root.at? p = some t) : t.IsFileSystem :=
  at?_induction (fun _ ht _ he => (ht.below_of_mem he).2) h ht

/-! ## Paths lead to the entries -/

/-- Names that do not lead back up are followed to the part of the tree that they lead to. -/
theorem walk_eq_some_iff {above : List Tree} {here t : Tree} {names : List String}
    (hhere : here.WellNamed) (hnames : ".." ∉ names) :
    walk above here names = some t ↔ here.Leads names t := by
  induction names generalizing above here with
  | nil =>
    rw [walk, Option.some.injEq]
    constructor
    · rintro rfl
      exact .here here
    · intro h
      cases h with
      | here => rfl
  | cons name rest ih =>
    rw [List.mem_cons, not_or] at hnames
    cases here with
    | file bytes =>
      rw [walk]
      constructor
      · intro h
        cases h
      · intro h
        cases h
    | directory cs =>
      have hget : ∀ u, Table.get? cs name = some u ↔ (name, u) ∈ cs := fun u =>
        Table.get?_eq_some_iff hhere.nodup_keys
      simp only [walk]
      rw [if_neg (by simpa using Ne.symm hnames.1)]
      constructor
      · intro h
        split at h
        · cases h
        · next u hu =>
          have hentry := (hget u).mp hu
          exact .down hentry ((ih (hhere.below_of_mem hentry).2 hnames.2).mp h)
      · intro h
        cases h with
        | down entry below =>
          rw [(hget _).mpr entry]
          exact (ih (hhere.below_of_mem entry).2 hnames.2).mpr below

/-- After names that lead anywhere, names lead on downwards. -/
theorem walk_append_iff {above : List Tree} {here t : Tree} {names rest : List String}
    (habove : ∀ a ∈ above, a.WellNamed) (hhere : here.WellNamed) (hrest : ".." ∉ rest) :
    walk above here (names ++ rest) = some t
      ↔ ∃ u, walk above here names = some u ∧ u.Leads rest t := by
  induction names generalizing above here with
  | nil => simp [walk, walk_eq_some_iff hhere hrest]
  | cons name names ih =>
    rw [List.cons_append]
    unfold walk
    split
    · simp
    · next cs =>
      split
      · split
        · simp
        · next a as =>
          exact ih (fun b hb => habove b (List.mem_cons_of_mem a hb)) (habove a List.mem_cons_self)
      · split
        · simp
        · next u hu =>
          refine ih ?_ (hhere.below_of_mem (Table.mem_of_get? hu)).2
          rintro b (_ | ⟨_, hb⟩)
          · exact hhere
          · exact habove b hb

/-- The part of a tree to which names lead down from the end of a path. -/
def HasEntry (tree : Tree) (root : Path) (names : List String) (t : Tree) : Prop :=
  ∃ docs, tree.at? root = some docs ∧ docs.Leads names t

section HasEntry

variable {tree t : Tree} {root : Path} {names : List String}

/-- A path goes on to what names lead down to from its end. -/
theorem at?_join_iff (htree : tree.WellNamed) {dir : Path} (hdir : ".." ∉ dir.parts) :
    tree.at? (root.join dir) = some t ↔ tree.HasEntry root dir.parts t := by
  unfold HasEntry at? Path.join
  dsimp only
  split
  · exact walk_append_iff (by simp) htree hdir
  · simp

/-- There is an entry where the path with its names leads somewhere. -/
theorem exists_hasEntry_iff (htree : tree.WellNamed) (dir : Path) (hdir : ".." ∉ dir.parts) :
    (∃ t, tree.HasEntry root dir.parts t) ↔ (tree.at? (root.join dir)).isSome := by
  simp only [Option.isSome_iff_exists, at?_join_iff htree hdir]

/-- An entry of an entry. -/
theorem hasEntry_append_iff {rest : List String} :
    tree.HasEntry root (names ++ rest) t ↔ ∃ v, tree.HasEntry root names v ∧ v.Leads rest t := by
  unfold HasEntry
  simp only [leads_append_iff]
  constructor
  · rintro ⟨docs, hdocs, v, hv, ht⟩
    exact ⟨v, ⟨docs, hdocs, hv⟩, ht⟩
  · rintro ⟨v, ⟨docs, hdocs, hv⟩, ht⟩
    exact ⟨docs, hdocs, v, hv, ht⟩

/-- The names of entries in a file system do not lead back up, and none holds a slash. -/
theorem HasEntry.isFileName (h : tree.HasEntry root names t) (htree : tree.IsFileSystem) :
    ∀ n ∈ names, IsFileName n ∧ n ≠ ".." := by
  obtain ⟨docs, hdocs, hleads⟩ := h
  have hbelow := isFileSystem_at? htree hdocs
  clear hdocs
  induction hleads with
  | here => simp
  | down entry _ ih =>
    obtain ⟨hname, hu⟩ := hbelow.below_of_mem entry
    exact List.forall_mem_cons.mpr ⟨hname, ih hu⟩

/-- What stands in the directory at a path are its entries. -/
theorem mem_entriesAt_iff (htree : tree.WellNamed) (dir : Path) (hdir : ".." ∉ dir.parts)
    {name : String} :
    (name, t) ∈ tree.entriesAt (root.join dir) ↔ tree.HasEntry root (dir.parts ++ [name]) t := by
  rw [hasEntry_append_iff]
  simp only [leads_singleton_iff, ← at?_join_iff htree hdir]
  unfold entriesAt
  cases tree.at? (root.join dir) <;> simp

end HasEntry

end Tree

/-! ## The documents are the entries of their places -/

/-- The name of a document: it ends in `.md`, and it is not that of the index. -/
structure IsDocument (name : String) : Prop where
  suffix : ∃ stem, name = stem ++ ".md"
  notIndex : name ≠ "00-index.md"

/-- The names that are looked for are those of documents. -/
theorem isDocumentName_iff {name : String} : isDocumentName name ↔ IsDocument name := by
  have hsuffix : ['.', 'm', 'd'].isSuffixOf name.toList = true ↔ ∃ stem, name = stem ++ ".md" := by
    rw [List.isSuffixOf_iff_suffix]
    constructor
    · rintro ⟨cs, hcs⟩
      refine ⟨String.ofList cs, String.toList_inj.mp ?_⟩
      rw [String.toList_append, String.toList_ofList, ← hcs]
      rfl
    · rintro ⟨stem, rfl⟩
      rw [String.toList_append]
      exact ⟨stem.toList, rfl⟩
  unfold isDocumentName indexName
  rw [Bool.and_eq_true, hsuffix, bne_iff_ne]
  exact ⟨fun h => ⟨h.1, h.2⟩, fun h => ⟨h.1, h.2⟩⟩

section Places

variable {tree : Tree} {root : Path}

/-- The documents in a directory are its entries with the name of a document. -/
theorem mem_documentsIn_iff (htree : tree.WellNamed) {dir p : Path} (hdir : ".." ∉ dir.parts) :
    p ∈ documentsIn tree root dir ↔ ∃ name t, IsDocument name
      ∧ tree.HasEntry root (dir.parts ++ [name]) t ∧ p = dir.child name := by
  unfold documentsIn Table.keys
  simp only [List.mem_map, List.mem_filter, isDocumentName_iff,
    ← Tree.mem_entriesAt_iff htree dir hdir]
  constructor
  · rintro ⟨name, ⟨⟨⟨_, t⟩, he, rfl⟩, hname⟩, rfl⟩
    exact ⟨_, t, hname, he, rfl⟩
  · rintro ⟨name, t, hname, he, rfl⟩
    exact ⟨name, ⟨⟨(name, t), he, rfl⟩, hname⟩, rfl⟩

/-- The categories are the directories among the entries of `bindings/categories`. -/
theorem mem_categoryPaths_iff (htree : tree.WellNamed) {dir : Path} :
    dir ∈ categoryPaths tree root ↔ ∃ name cs,
      tree.HasEntry root (Place.category name).path.parts (.directory cs)
        ∧ dir = (Place.category name).path := by
  have hentry : ∀ name t,
      (name, t) ∈ tree.entriesAt (root.join { parts := ["bindings", "categories"] })
        ↔ tree.HasEntry root (Place.category name).path.parts t := fun _ _ =>
    Tree.mem_entriesAt_iff htree _ (by decide)
  unfold categoryPaths Table.keys
  simp only [List.mem_map, List.mem_filter]
  constructor
  · rintro ⟨name, ⟨⟨_, t⟩, ⟨he, ht⟩, rfl⟩, rfl⟩
    cases t with
    | file bytes => cases ht
    | directory cs => exact ⟨_, cs, (hentry _ _).mp he, rfl⟩
  · rintro ⟨name, cs, he, rfl⟩
    exact ⟨name, ⟨(name, .directory cs), ⟨(hentry _ _).mpr he, rfl⟩, rfl⟩, rfl⟩

/-- The paths of documents are those of the entries of the places. -/
theorem mem_documentPaths_iff (htree : tree.IsFileSystem) {p : Path} :
    p ∈ documentPaths tree root ↔ ∃ (place : Place) (name : String) (t : Tree), IsDocument name
      ∧ tree.HasEntry root (place.path.parts ++ [name]) t ∧ p = place.path.child name := by
  have hin : ∀ place : Place, ".." ∉ place.path.parts → (p ∈ documentsIn tree root place.path
      ↔ ∃ name t, IsDocument name ∧ tree.HasEntry root (place.path.parts ++ [name]) t
        ∧ p = place.path.child name) := fun _ h => mem_documentsIn_iff htree.wellNamed h
  -- No category has the name that leads back up.
  have hcategory : ∀ {name t}, tree.HasEntry root (Place.category name).path.parts t →
      ".." ∉ (Place.category name).path.parts := fun h hup => (h.isFileName htree _ hup).2 rfl
  unfold documentPaths
  rw [List.mem_append, List.mem_append, List.mem_flatMap]
  constructor
  · rintro ((h | h) | ⟨dir, hdir, h⟩)
    · exact ⟨.tenets, (hin .tenets (by decide)).mp h⟩
    · exact ⟨.core, (hin .core (by decide)).mp h⟩
    · obtain ⟨name, cs, hentry, rfl⟩ := (mem_categoryPaths_iff htree.wellNamed).mp hdir
      exact ⟨.category name, (hin _ (hcategory hentry)).mp h⟩
  · rintro ⟨place, hplace⟩
    cases place with
    | tenets => exact .inl (.inl ((hin .tenets (by decide)).mpr hplace))
    | core => exact .inl (.inr ((hin .core (by decide)).mpr hplace))
    | category name =>
      obtain ⟨document, t, hdocument, hentry, hp⟩ := hplace
      obtain ⟨v, hv, hbelow⟩ := Tree.hasEntry_append_iff.mp hentry
      -- What has an entry is a directory.
      cases v with
      | file bytes => cases hbelow
      | directory cs =>
        exact .inr ⟨_, (mem_categoryPaths_iff htree.wellNamed).mpr ⟨name, cs, hv, rfl⟩,
          (hin _ (hcategory hv)).mpr ⟨document, t, hdocument, hentry, hp⟩⟩

end Places

/-! ## The order of the documents -/

/-- What is sorted by texts that are distinct is in the order of the texts. -/
theorem sorted_mergeSort_of_nodup {α : Type} (key : α → String) {items : List α}
    (h : (items.map key).Nodup) :
    (items.mergeSort fun a b => !(key b < key a)).Pairwise fun a b => key a < key b := by
  have hle : ∀ {a b}, (!decide (key b < key a)) = true ↔ key a ≤ key b := by
    intro a b
    rw [Bool.not_eq_true', decide_eq_false_iff_not]
    exact Iff.rfl
  have hsorted : (items.mergeSort fun a b => !(key b < key a)).Pairwise
      fun a b => (!decide (key b < key a)) = true := by
    apply List.pairwise_mergeSort
    · intro a b c hab hbc
      exact hle.mpr (String.le_trans (hle.mp hab) (hle.mp hbc))
    · intro a b
      rw [Bool.or_eq_true, hle, hle]
      exact String.le_total (key a) (key b)
  have hdistinct : (items.mergeSort fun a b => !(key b < key a)).Pairwise
      fun a b => key a ≠ key b :=
    List.pairwise_map.mp (((List.mergeSort_perm _ _).map key).nodup_iff.mpr h)
  refine hsorted.imp₂ (fun a b hab hne => ?_) hdistinct
  exact String.not_le.mp fun hba => hne (String.le_antisymm (hle.mp hab) hba)

section Discovered

variable {tree : Tree} {root : Path}

/-- The documents that are found are in the order of their written paths, and none is found
twice. -/
theorem sorted_discover (htree : tree.WellNamed) (root : Path) :
    (discover tree root).Pairwise fun f g => f.path.toString < g.path.toString := by
  have hdistinct : (((documentPaths tree root).map (Found.below root)).map
      fun f => f.path.toString).Nodup :=
    ((List.mergeSort_perm _ _).map _).nodup_iff.mp (nodup_discover htree root)
  exact sorted_mergeSort_of_nodup _ hdistinct

/-- The paths of the documents that are found are those of the entries of the places. -/
theorem mem_map_path_discover_iff (htree : tree.IsFileSystem) {p : Path} :
    p ∈ (discover tree root).map Found.path ↔ ∃ (place : Place) (name : String) (t : Tree),
      IsDocument name ∧ tree.HasEntry root (place.path.parts ++ [name]) t
        ∧ p = root.join (place.path.child name) := by
  simp only [List.mem_map, mem_discover_iff, mem_documentPaths_iff htree]
  constructor
  · rintro ⟨_, ⟨_, ⟨place, name, t, hname, hentry, rfl⟩, rfl⟩, rfl⟩
    exact ⟨place, name, t, hname, hentry, rfl⟩
  · rintro ⟨place, name, t, hname, hentry, rfl⟩
    exact ⟨_, ⟨_, ⟨place, name, t, hname, hentry, rfl⟩, rfl⟩, rfl⟩

/-- No entry of `bindings` is found as a document, since no document is written like it. -/
theorem bindings_child_notMem_discover (htree : tree.IsFileSystem) {name : String} {t : Tree}
    (h : tree.HasEntry root ["bindings", name] t) :
    (root.join { parts := ["bindings", name] }).toString
      ∉ (discover tree root).map fun f => f.path.toString := by
  intro hmem
  obtain ⟨f, hf, hsame⟩ := List.mem_map.mp hmem
  obtain ⟨p, hp, rfl⟩ := (mem_discover_iff root).mp hf
  have hbelow : IsBelow { parts := ["bindings", name] } :=
    ⟨rfl, by simp, fun n hn => (h.isFileName htree n hn).1⟩
  have hpath : p = { parts := ["bindings", name] } :=
    toString_join_inj (isBelow_of_mem_documentPaths htree.wellNamed root hp) hbelow hsame
  obtain ⟨place, document, _, -, -, hplace⟩ := (mem_documentPaths_iff htree).mp hp
  -- The directory of a place is not `bindings` itself.
  have hparts := congrArg Path.parts (hplace.symm.trans hpath)
  cases place <;> simp [Place.path, Path.child] at hparts

/-! ## Misplaced bindings -/

/-- The misplaced bindings are the entries of `bindings` with the name of a document. -/
theorem mem_misplaced_iff (htree : tree.WellNamed) {name : String} :
    name ∈ misplaced tree root
      ↔ IsDocument name ∧ ∃ t, tree.HasEntry root ["bindings", name] t := by
  have hentry : ∀ t, (name, t) ∈ tree.entriesAt (root.child "bindings")
      ↔ tree.HasEntry root ["bindings", name] t := fun t =>
    Tree.mem_entriesAt_iff htree { parts := ["bindings"] } (by decide)
  unfold misplaced Table.keys
  rw [List.mem_mergeSort, List.mem_filter, isDocumentName_iff, And.comm]
  simp [← hentry]

/-- The misplaced bindings are in order, and none is named twice. -/
theorem sorted_misplaced (htree : tree.WellNamed) (root : Path) :
    (misplaced tree root).Pairwise (· < ·) := by
  obtain ⟨t, ht, hentries⟩ := Tree.exists_children_eq_entriesAt htree (root.child "bindings")
  unfold misplaced
  rw [hentries]
  refine sorted_mergeSort_of_nodup id ?_
  rw [List.map_id]
  exact ht.nodup_keys.filter _

/-- The record about misplaced bindings is there exactly if there are any, and names them all. -/
theorem misplacedLog_eq (tree : Tree) (root : Path) :
    misplacedLog tree root = if misplaced tree root = [] then [] else
      [⟨.warning, "tenetlint.discovery", misplacedMessage root (misplaced tree root)⟩] := by
  unfold misplacedLog
  split
  · next hnone => rw [if_pos hnone]
  · next hsome => rw [if_neg hsome]

end Discovered

/-! ## Discovery -/

/-- **The documents that are found are the entries of their places.** In every tree of a file system
and from every root, the documents are in the order of their written paths, none of them twice.
Their paths are those of the entries with the name of a document among the tenets, the core
bindings, and in the directories of the categories. No entry of `bindings` itself is among them.
Those that have the name of a document are told in one warning, each by its path and in order,
exactly if there are any. -/
theorem discover_entries {tree : Tree} (htree : tree.IsFileSystem) (root : Path) :
    (discover tree root).Pairwise (fun f g => f.path.toString < g.path.toString)
      ∧ (∀ p, p ∈ (discover tree root).map Found.path
        ↔ ∃ (place : Place) (name : String) (t : Tree), IsDocument name
          ∧ tree.HasEntry root (place.path.parts ++ [name]) t
          ∧ p = root.join (place.path.child name))
      ∧ (∀ name t, tree.HasEntry root ["bindings", name] t →
        (root.join { parts := ["bindings", name] }).toString
          ∉ (discover tree root).map fun f => f.path.toString)
      ∧ ∃ names : List String, names.Pairwise (· < ·)
        ∧ (∀ name, name ∈ names
          ↔ IsDocument name ∧ ∃ t, tree.HasEntry root ["bindings", name] t)
        ∧ misplacedLog tree root = if names = [] then [] else
          [⟨.warning, "tenetlint.discovery",
            toString names.length ++ " binding file(s) directly in "
              ++ (root.join { parts := ["bindings"] }).toString
              ++ "; move them to bindings/core/ or bindings/categories/<category>/: "
              ++ String.intercalate ", "
                (names.map fun n => (root.join { parts := ["bindings", n] }).toString)⟩] := by
  refine ⟨sorted_discover htree.wellNamed root, fun p => mem_map_path_discover_iff htree,
    fun name t => bindings_child_notMem_discover htree, misplaced tree root,
    sorted_misplaced htree.wellNamed root, fun name => mem_misplaced_iff htree.wellNamed, ?_⟩
  have hchild : ∀ n, (root.child "bindings").child n = root.join { parts := ["bindings", n] } := by
    intro n
    simp [Path.child, Path.join]
  rw [misplacedLog_eq]
  unfold misplacedMessage
  simp only [hchild]
  rfl

/-- A tree with hidden documents, a directory with the name of a document, indexes, a file among the
categories, and misplaced bindings. -/
def layoutTree : Tree :=
  Tree.ofFiles [({ parts := ["docs", "tenets", ".md"] }, some []),
    ({ parts := ["docs", "tenets", "00-index.md"] }, some []),
    ({ parts := ["docs", "tenets", "Z.md", "notes.md"] }, some []),
    ({ parts := ["docs", "bindings", "core", "b.md"] }, some []),
    ({ parts := ["docs", "bindings", "categories", "a.md"] }, some []),
    ({ parts := ["docs", "bindings", "categories", "web", "c.md"] }, some []),
    ({ parts := ["docs", "bindings", "stray.md"] }, some []),
    ({ parts := ["docs", "bindings", "00-index.md"] }, some [])]

/-- The directory of the documents in the tree. -/
def layoutRoot : Path := { parts := ["docs"] }

/-- A directory with the name of a document is found in it, the misplaced binding is not, and there
is one warning. -/
theorem discover_layoutTree : layoutTree.IsFileSystem
    ∧ layoutRoot.join { parts := ["tenets", "Z.md"] }
      ∈ (discover layoutTree layoutRoot).map Found.path
    ∧ "docs/bindings/stray.md"
      ∉ (discover layoutTree layoutRoot).map (fun f => f.path.toString)
    ∧ (misplacedLog layoutTree layoutRoot).length = 1 := by
  have htree : layoutTree.IsFileSystem := by
    refine Tree.isFileSystem_ofFiles ?_
    unfold IsFileName
    decide +kernel
  have hname : ∀ {name}, isDocumentName name → IsDocument name := isDocumentName_iff.mp
  obtain ⟨-, hpaths, hbindings, names, -, hnames, hlog⟩ := discover_entries htree layoutRoot
  have hentry : ∀ dir : Path, ".." ∉ dir.parts →
      (layoutTree.at? (layoutRoot.join dir)).isSome →
      ∃ t, layoutTree.HasEntry layoutRoot dir.parts t := fun dir hdir =>
    (Tree.exists_hasEntry_iff htree.wellNamed dir hdir).mpr
  obtain ⟨t, ht⟩ := hentry { parts := ["tenets", "Z.md"] } (by decide) (by decide +kernel)
  obtain ⟨u, hu⟩ := hentry { parts := ["bindings", "stray.md"] } (by decide) (by decide +kernel)
  refine ⟨htree, (hpaths _).mpr ⟨.tenets, "Z.md", t, hname (by decide), ht, by decide⟩,
    hbindings _ u hu, ?_⟩
  have hstray : names ≠ [] :=
    List.ne_nil_of_mem ((hnames "stray.md").mpr ⟨hname (by decide), u, hu⟩)
  rw [hlog, if_neg hstray]
  rfl

end FrontMatter
