import StyleCheck.Token

/-!
# Walking token trees

Every walk goes depth first and meets a token before its children.

## Main definitions

- `Token.preorder`: the tokens of a forest with their depths, in the order of the walk.
- `Token.flatten`, `Token.collect`, `Token.find?`: the tokens alone, those of some kinds, the
  first of them.
- `Token.listing`: one line a token, for debugging.
-/

namespace StyleCheck.Token

/-! ## §1 The walk -/

mutual

/-- A token and what hangs below it, with depths; its own is `depth`. -/
def preorderOne (depth : Nat) : Token → List (Token × Nat)
  | ⟨kind, text, start, stop, children⟩ =>
    (⟨kind, text, start, stop, children⟩, depth) :: preorder (depth + 1) children

/-- The tokens of a forest with their depths, parents before their `children`. -/
def preorder (depth : Nat) : List Token → List (Token × Nat)
  | [] => []
  | t :: ts => preorderOne depth t ++ preorder depth ts

end

/-- All tokens of a forest, parents before their `children`. -/
def flatten (tokens : List Token) : List Token := (preorder 0 tokens).map (·.1)

/-- The tokens that are `wanted`, at any depth. -/
def collect (wanted : Token → Bool) (tokens : List Token) : List Token :=
  (flatten tokens).filter wanted

/-- The first token that is `wanted`, at any depth, in the order of `flatten`. -/
def find? (wanted : Token → Bool) (tokens : List Token) : Option Token :=
  (flatten tokens).find? wanted

/-- The top-level tokens other than `.whitespace`. -/
def significant (tokens : List Token) : List Token := tokens.filter (!·.kind.isTrivia)

/-! ## §2 Listings -/

/-- One line of a listing: running number, indented label, offsets and quoted text. -/
def listingLine (index depth : Nat) (label : String) (span : Span) (text : Text) : Text :=
  Text.padStart 3 '0' (Text.decimal index) ++ " ".toText ++ List.replicate (2 * depth) (.char ' ')
    ++ Text.padEnd 20 label.toText ++ " range=".toText ++ span.bounds
    ++ " text=".toText ++ text.quoted

/-- The listing of a token forest, one `listingLine` a token. It fails where the offsets of a token
make no `Span`. -/
def listing (tokens : List Token) : Except Fault (List Text) :=
  (preorder 0 tokens).zipIdx.mapM fun ((t, depth), index) =>
    t.span.map fun span => listingLine index depth t.kind.label span t.text

end StyleCheck.Token
