import FrontMatter.Yaml.Token.Lexer

/-!
# `FrontMatter.Yaml.Token.Stream` — the tokens of a text

A text is read from the start as far as it goes. The tokens that are settled before a fault are part
of the stream, and a reader meets the fault only if it asks for more.

## Contents

* `TokenStream`: tokens, and what comes after the last of them.
* `TokenStream.ofText`: the tokens of a text.
* `TokenStream.peek`, `TokenStream.tail`: reading.
-/

namespace FrontMatter.Yaml

/-- Tokens, and after them the end of the text or a fault. -/
structure TokenStream where
  tokens : List Token
  ending : Except Fault Mark

namespace TokenStream

/-- Reads tokens; `done` holds those that are settled. -/
def run : Nat → Lexer → Array Token → TokenStream
  | 0, l, done => ⟨done.toList, .ok l.cursor.mark⟩
  | fuel + 1, l, done =>
    match l.step with
    | (ready, .error fault) => ⟨(done.appendList ready).toList, .error fault⟩
    | (ready, .ok (.finished l)) =>
      ⟨((done.appendList ready).appendList l.held).toList, .ok l.cursor.mark⟩
    | (ready, .ok (.next l)) => run fuel l (done.appendList ready)

/-- The tokens of a text. Each step but the last takes a character, so there are enough steps. -/
def ofText (s : String) : TokenStream :=
  run (s.length + 2) (Lexer.ofText s) #[]

/-- The next token; at the end of the text, the token that stands for it. -/
def peek (ts : TokenStream) : Except Fault Token :=
  match ts.tokens with
  | t :: _ => .ok t
  | [] => ts.ending.map fun m => ⟨.streamEnd, m, m⟩

/-- The stream after the next token. -/
def tail (ts : TokenStream) : TokenStream :=
  { ts with tokens := ts.tokens.tail }

end TokenStream

end FrontMatter.Yaml
