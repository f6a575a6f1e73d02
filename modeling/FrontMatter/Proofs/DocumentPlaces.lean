import FrontMatter.Proofs.FoundDocuments

/-!
# `FrontMatter.Proofs.DocumentPlaces` — the kinds of documents and the places they stand in

Documents are looked for in three kinds of places below the root: the tenets, the core bindings, and
the categories of bindings. The place of a document says which kind it has. The kind that is found
is told by the path from the root on, in which a directory `tenets` counts wherever it stands: it is
the kind of the place, whatever the root, the category and the document are called, except for the
documents of a category with the name `tenets`, which are taken for tenets. Below a docs root with
an anchor there are no documents.

## Contents

* `Place`, `Place.kind`: where documents stand, and the kinds that they have there.
* `Found.StandsIn`, `Found.FollowsLayout`: a document in a place, and one that has its kind.
* `exists_place_of_mem_discover`: every document stands in a place.
* `ofPath?_place`: the kind that is found there.
* `Found.StandsIn.unique`, `standsIn_iff`: no document stands in two places.
* `followsLayout_iff`: the documents whose kind is that of their place.
-/

namespace FrontMatter

open Text (Path)

/-! ## Places -/

/-- The places below a root in which documents are looked for. -/
inductive Place
  | tenets
  | core
  | category (name : String)
  deriving Repr, DecidableEq

/-- The directory of a place, from the root on. -/
def Place.path : Place → Path
  | .tenets => { parts := ["tenets"] }
  | .core => { parts := ["bindings", "core"] }
  | .category name => { parts := ["bindings", "categories", name] }

/-- The kind of the documents in a place. -/
def Place.kind : Place → DocumentKind
  | .tenets => .tenet
  | .core => .binding
  | .category _ => .binding

/-- A document directly in the directory of a place. -/
def Found.StandsIn (root : Path) (f : Found) (p : Place) : Prop :=
  ∃ name, f.path = root.join (p.path.child name)

/-- A document whose kind is that of its place: a tenet exactly where tenets stand, and a binding
exactly among the core bindings or in a category. -/
structure Found.FollowsLayout (root : Path) (f : Found) : Prop where
  tenet : f.kind = .tenet ↔ f.StandsIn root .tenets
  binding : f.kind = .binding ↔
    f.StandsIn root .core ∨ ∃ name, f.StandsIn root (.category name)

/-! ## Every document stands in one place -/

/-- A document in a directory has the name of one. -/
theorem exists_name_of_mem_documentsIn {tree : Tree} {root dir p : Path}
    (h : p ∈ documentsIn tree root dir) : ∃ name, isDocumentName name ∧ p = dir.child name := by
  obtain ⟨name, hname, rfl⟩ := List.mem_map.mp h
  exact ⟨name, (List.mem_filter.mp hname).2, rfl⟩

/-- Every document that is found stands in a place. -/
theorem exists_place_of_mem_discover {tree : Tree} {root : Path} {f : Found}
    (h : f ∈ discover tree root) : ∃ (p : Place) (name : String), isDocumentName name
      ∧ f = Found.below root (p.path.child name) := by
  obtain ⟨p, hp, rfl⟩ := (mem_discover_iff root).mp h
  unfold documentPaths at hp
  rw [List.mem_append, List.mem_append] at hp
  rcases hp with (hp | hp) | hp
  · obtain ⟨name, hname, rfl⟩ := exists_name_of_mem_documentsIn hp
    exact ⟨.tenets, name, hname, rfl⟩
  · obtain ⟨name, hname, rfl⟩ := exists_name_of_mem_documentsIn hp
    exact ⟨.core, name, hname, rfl⟩
  · obtain ⟨dir, hdir, hmem⟩ := List.mem_flatMap.mp hp
    obtain ⟨category, -, rfl⟩ := List.mem_map.mp hdir
    obtain ⟨name, hname, rfl⟩ := exists_name_of_mem_documentsIn hmem
    exact ⟨.category category, name, hname, rfl⟩

/-- No document stands in two places. -/
theorem Found.StandsIn.unique {root : Path} {f : Found} {p q : Place} (hp : f.StandsIn root p)
    (hq : f.StandsIn root q) : p = q := by
  obtain ⟨name, hname⟩ := hp
  obtain ⟨other, hother⟩ := hq
  have hparts : (p.path.child name).parts = (q.path.child other).parts :=
    List.append_cancel_left (congrArg Path.parts (hname.symm.trans hother))
  cases p <;> cases q <;> simp_all [Place.path, Path.child]

/-! ## The kind that is found -/

/-- The kind that the path of a document tells: that of its place, but for the category that is
called `tenets`. -/
theorem ofPath?_place (p : Place) {name : String} (hname : isDocumentName name) :
    DocumentKind.ofPath? (p.path.child name)
      = some (if p = .category "tenets" then .tenet else p.kind) := by
  -- The document itself does not have the name of the directory, which does not end in `.md`.
  have hdocument : "tenets" ≠ name := by
    rintro rfl
    exact absurd hname (by decide)
  unfold DocumentKind.ofPath?
  cases p with
  | tenets => simp [Place.path, Place.kind, Path.child]
  | core => simp [Place.path, Place.kind, Path.child, hdocument]
  | category category =>
    by_cases hcategory : category = "tenets"
    · subst hcategory
      simp [Place.path, Path.child]
    · simp [Place.path, Place.kind, Path.child, hdocument, hcategory, Ne.symm hcategory]

/-- Every document stands in one place, and has the kind of that place unless it is the category
that is called `tenets`. -/
theorem exists_standsIn_of_mem_discover {tree : Tree} {root : Path} {f : Found}
    (h : f ∈ discover tree root) : ∃ p, f.StandsIn root p
      ∧ f.kind = if p = .category "tenets" then .tenet else p.kind := by
  obtain ⟨p, name, hname, rfl⟩ := exists_place_of_mem_discover h
  refine ⟨p, ⟨name, rfl⟩, ?_⟩
  show (DocumentKind.ofPath? (p.path.child name)).getD .binding = _
  rw [ofPath?_place p hname, Option.getD_some]

/-! ## The layout -/

/-- Where a document with one place stands. -/
theorem standsIn_iff {root : Path} {f : Found} {p q : Place} (h : f.StandsIn root p) :
    f.StandsIn root q ↔ p = q := by
  constructor
  · exact h.unique
  · rintro rfl
    exact h

/-- The documents that are taken for tenets: those of the tenets, and those of a category with the
same name. -/
theorem kind_eq_tenet_iff {tree : Tree} {root : Path} {f : Found} (h : f ∈ discover tree root) :
    f.kind = .tenet ↔ f.StandsIn root .tenets ∨ f.StandsIn root (.category "tenets") := by
  obtain ⟨p, hp, hkind⟩ := exists_standsIn_of_mem_discover h
  rw [hkind, standsIn_iff hp, standsIn_iff hp]
  cases p with
  | tenets => simp [Place.kind]
  | core => simp [Place.kind]
  | category name => by_cases hname : name = "tenets" <;> simp [Place.kind, hname]

/-- **The kind of a document follows the layout, except in a category called `tenets`.** Every
document that is found stands in a place. It is taken for a tenet exactly where tenets stand and in
a category of that name, so that its kind is that of its place exactly outside this category,
whatever the root, the category and the document are called. -/
theorem followsLayout_iff {tree : Tree} {root : Path} {f : Found} (h : f ∈ discover tree root) :
    (∃ p, f.StandsIn root p)
      ∧ (f.kind = .tenet ↔ f.StandsIn root .tenets ∨ f.StandsIn root (.category "tenets"))
      ∧ (f.FollowsLayout root ↔ ¬ f.StandsIn root (.category "tenets")) := by
  have htenet := kind_eq_tenet_iff h
  obtain ⟨p, hp, hkind⟩ := exists_standsIn_of_mem_discover h
  refine ⟨⟨p, hp⟩, htenet, ?_⟩
  constructor
  · -- A document of the category would be a tenet, and a binding by the layout.
    intro hfollows hcategory
    have hbinding : f.kind = .binding := hfollows.binding.mpr (.inr ⟨_, hcategory⟩)
    rw [htenet.mpr (.inr hcategory)] at hbinding
    cases hbinding
  · intro hno
    have hother : p ≠ .category "tenets" := fun he => hno (he ▸ hp)
    rw [if_neg hother] at hkind
    refine ⟨htenet.trans (or_iff_left hno), ?_⟩
    simp only [standsIn_iff hp]
    rw [hkind]
    cases p with
    | tenets => simp [Place.kind]
    | core => simp [Place.kind]
    | category name => simp [Place.kind]

/-- A tree with a category that has the name of the tenets, and another category. -/
def namesakeTree : Tree :=
  Tree.ofFiles [(Path.ofString "docs/bindings/categories/tenets/a.md", some []),
    (Path.ofString "docs/bindings/categories/web/tenets.md", some [])]

/-- The documents of the tree, from the root on. -/
theorem documentPaths_namesakeTree : documentPaths namesakeTree (Path.ofString "docs")
    = [(Place.category "tenets").path.child "a.md",
      (Place.category "web").path.child "tenets.md"] := by
  decide +kernel

/-- The kind of a document in another category is that of the layout, though its name is that of
the tenets. -/
theorem followsLayout_namesakeTree : ∃ f ∈ discover namesakeTree (Path.ofString "docs"),
    f.path = Path.ofString "docs/bindings/categories/web/tenets.md"
      ∧ f.kind = .binding ∧ f.FollowsLayout (Path.ofString "docs") := by
  have hf : Found.below (Path.ofString "docs") ((Place.category "web").path.child "tenets.md")
      ∈ discover namesakeTree (Path.ofString "docs") := by
    rw [mem_discover_iff, documentPaths_namesakeTree]
    exact ⟨_, by simp, rfl⟩
  have hweb : Found.StandsIn (Path.ofString "docs")
      (Found.below (Path.ofString "docs") ((Place.category "web").path.child "tenets.md"))
      (.category "web") := ⟨_, rfl⟩
  obtain ⟨-, -, hfollows⟩ := followsLayout_iff hf
  refine ⟨_, hf, by decide, by decide, hfollows.mpr ?_⟩
  rw [standsIn_iff hweb]
  decide

/-- A binding in the category that has the name of the tenets is taken for a tenet. -/
theorem not_followsLayout_namesakeTree : ∃ f ∈ discover namesakeTree (Path.ofString "docs"),
    f.path = Path.ofString "docs/bindings/categories/tenets/a.md"
      ∧ f.kind = .tenet ∧ ¬ f.FollowsLayout (Path.ofString "docs") := by
  have hf : Found.below (Path.ofString "docs") ((Place.category "tenets").path.child "a.md")
      ∈ discover namesakeTree (Path.ofString "docs") := by
    rw [mem_discover_iff, documentPaths_namesakeTree]
    exact ⟨_, by simp, rfl⟩
  refine ⟨_, hf, by decide, by decide, ?_⟩
  intro hfollows
  have hbinding := hfollows.binding.mpr (.inr ⟨"tenets", "a.md", rfl⟩)
  exact absurd hbinding (by decide)

end FrontMatter
