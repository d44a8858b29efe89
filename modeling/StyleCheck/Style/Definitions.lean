import StyleCheck.Distinct
import StyleCheck.OrderedMap
import StyleCheck.Style.Tree

/-!
# Definitions in a file

A file may define tokens (`#name`, `$name`) and aliases for states (`@name`) for itself. They are
collected over all its style objects before anything is checked, so a definition counts in the
whole file, also above its own place.

Where a definition can stand is a question of the path of keys that leads there. Style objects are
entered through sub-elements, nested selectors and states; everything else that holds an object is
a state mapping, in which only alias definitions count.

## Main definitions

- `DefinitionSite`: a key that defines something.
- `definitionSites`: the sites of a forest, in the order in which they stand.
- `Definitions`, `Definitions.collect`: the names defined in a file, with their first sites.
-/

namespace StyleCheck

/-! ## §1 Sites -/

/-- What a site defines. -/
inductive DefinitionKind
  | token
  | state
deriving DecidableEq, Repr

/-- A key that defines a token or an alias; its own offsets are those of the site. -/
structure DefinitionSite where
  kind : DefinitionKind
  key : StyleKey
deriving DecidableEq, Repr

/-- Whether a key is that of a token, and not the lone `$` of a selector affix. -/
def definesToken (key : StyleKey) : Bool := isTokenName key.name && key.name != "$".toText

/-- The tokens declared by the entries of an `@properties` object. -/
def declaredTokens (entries : StyleEntries) : List DefinitionSite :=
  (entries.filter fun e => definesToken e.1).map fun e => ⟨.token, e.1⟩

mutual

/-- The sites in a state mapping: its keys use states, except where they satisfy
`isAliasDefinition`. -/
def mappingSites : StyleEntries → List DefinitionSite
  | [] => []
  | (key, value) :: entries => mappingEntrySites key value ++ mappingSites entries

/-- The sites in one entry of a state mapping. An object in it is a state mapping again. -/
def mappingEntrySites (key : StyleKey) : StyleValue → List DefinitionSite
  | .unread => []
  | .text content _ _ =>
    if StateKey.isAliasDefinition key.name content then [⟨.state, key⟩] else []
  | .object entries _ _ => mappingSites entries

end

mutual

/-- The sites in a style object, entry after entry as `entrySites` has them. -/
def objectSites : StyleEntries → List DefinitionSite
  | [] => []
  | (key, value) :: entries => entrySites key value ++ objectSites entries

/-- The sites in one entry of a style object, its own key included. What the value holds is read by
the `KeyRole` of the key. -/
def entrySites (key : StyleKey) : StyleValue → List DefinitionSite
  | .unread => if definesToken key then [⟨.token, key⟩] else []
  | .text .. =>
    match KeyRole.ofName key.name with
    | .token => [⟨.token, key⟩]
    | .state | .starting => [⟨.state, key⟩]
    | _ => []
  | .object entries _ _ =>
    match KeyRole.ofName key.name with
    | .subElement | .nested | .state | .starting => objectSites entries
    | .keyframes => []
    | .properties => declaredTokens entries
    | .token => ⟨.token, key⟩ :: mappingSites entries
    | .affix | .property => mappingSites entries

end

/-- The definition sites of a forest, in the order in which they stand; `Definitions.collect` takes
the first of each name. -/
def definitionSites (forest : Forest) : List DefinitionSite :=
  forest.flatMap fun object => objectSites object.entries

/-! ## §2 Definitions -/

/-- The names that a file defines, with the first site of each. A name stands in `tokens` exactly if
it has a site in `tokenSites`, and so for `states`. -/
structure Definitions where
  tokens : List Text := []
  states : List Text := []
  tokenSites : OrderedMap Text Span := .empty
  stateSites : OrderedMap Text Span := .empty

namespace Definitions

/-- The `names` with one more, if it is not among them. -/
def addName (names : List Text) (name : Text) : List Text :=
  if names.contains name then names else names ++ [name]

/-- The `sites` with one more; a site that is already known for the name stays. -/
def addSite (sites : OrderedMap Text Span) (name : Text) (site : Span) : OrderedMap Text Span :=
  if sites.contains name then sites else sites.insert name site

/-- Adds a token. -/
def addToken (d : Definitions) (name : Text) (site : Span) : Definitions :=
  { d with tokens := addName d.tokens name, tokenSites := addSite d.tokenSites name site }

/-- Adds an alias. -/
def addState (d : Definitions) (name : Text) (site : Span) : Definitions :=
  { d with states := addName d.states name, stateSites := addSite d.stateSites name site }

/-- Definitions of which only the names are known; their sites are put at the start of the text,
since `Definitions` has a site for each. -/
def ofNames (tokens states : List Text) : Definitions :=
  let withTokens := tokens.foldl (fun d name => d.addToken name ⟨0, 0, Nat.le_refl 0⟩) {}
  states.foldl (fun d name => d.addState name ⟨0, 0, Nat.le_refl 0⟩) withTokens

/-- Whether a token is defined. -/
def hasToken (d : Definitions) (name : Text) : Bool := d.tokens.contains name

/-- Whether an alias is defined. -/
def hasState (d : Definitions) (name : Text) : Bool := d.states.contains name

/-- Adds what a site defines. Its offsets may be those of no `Span`, and then this fails. -/
def addDefinition (d : Definitions) (site : DefinitionSite) : Except Fault Definitions :=
  site.key.span.map fun span =>
    match site.kind with
    | .token => d.addToken site.key.name span
    | .state => d.addState site.key.name span

/-- Everything that a forest defines. It fails at the first of the `definitionSites` whose offsets
make no span. -/
def collect (forest : Forest) : Except Fault Definitions :=
  (definitionSites forest).foldlM addDefinition {}

end Definitions

end StyleCheck
