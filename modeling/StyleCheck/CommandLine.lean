import StyleCheck.Affix
import StyleCheck.CommandLine.Request
import StyleCheck.StateKey.Lexer
import StyleCheck.Token.Walk
import StyleCheck.Value.Lexer

/-!
# The command line

Lexes one text and lists its tokens, one line a token. Arguments that make no request are answered
by the exit status alone.

## Main definitions

- `Request.listing`: the lines that answer a request.
- `CommandLine.answer`: the lines and the exit status for arguments.
-/

namespace StyleCheck

/-- What a request tells the lexer of values about the project. Without tokens, every token is
permitted, as `.anything` says. -/
def Request.lexicon (r : Request) : Value.Lexicon where
  tokens := if r.tokens.isEmpty then .anything else .only r.tokens
  units := r.units
  presets := r.presets

/-- The lines for the parts of an affix. -/
def Affix.listing (tokens : List AffixToken) : Except Fault (List Text) :=
  tokens.zipIdx.mapM fun (token, index) =>
    (Span.ofBounds token.start token.stop).map fun span =>
      Token.listingLine index 0 token.kind.label span token.text

/-- The lines that answer a request. An affix is listed as a whole before its parts. -/
def Request.listing (r : Request) : Except Fault (List Text) :=
  if r.lacksName then .error .missingName
  else match r.grammar with
  | .value => Token.listing (Value.lex r.lexicon r.text)
  | .state => Token.listing (StateKey.lex r.states r.text)
  | .affix => do
    let whole ← Token.listing [Affix.wholeToken r.text]
    let parts ← Affix.listing (Affix.lex r.text)
    return whole ++ parts

namespace CommandLine

/-- What a call prints, line by line, and its exit status. -/
structure Answer where
  lines : List Text
  status : Nat
deriving DecidableEq, Repr

/-- How the program is called. -/
def usage : List Text :=
  ["usage: stylecheck [-h] [--mode value|state|affix] [--token NAME] [--unit NAME]".toText,
   "                  [--preset NAME] [--state NAME] text".toText]

/-- The answer to arguments, unless answering fails. Help is answered by `usage` and the exit status
0, and arguments that do not fit by the status 2. -/
def answer (arguments : List Text) : Except Fault Answer :=
  match Request.parse arguments with
  | .error .help => .ok { lines := usage, status := 0 }
  | .error .misuse => .ok { lines := [], status := 2 }
  | .ok request => request.listing.map fun lines => { lines, status := 0 }

end CommandLine

end StyleCheck
