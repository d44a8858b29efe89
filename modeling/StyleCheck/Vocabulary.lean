import StyleCheck.Text.Basic

/-!
# The built-in vocabulary

Names that every project knows without configuring them: style properties, units, functions,
modifiers and selectors.

## Main definitions

- `stylePropertyGroups`, `styleProperties`: the names of properties.
- `builtInUnits`, `cssUnits`: what may stand behind a number.
- `cssFunctions`, `presetModifiers`, `directionModifiers`, `cssGlobalValues`: the words of values.
- `pseudoClasses`, `pseudoElements`, `selectorPseudoClasses`: the words of selectors.
-/

namespace StyleCheck.Vocabulary

/-- A table of names. -/
def names (table : List String) : List Text := table.map String.toText

/-! ## §1 Style properties -/

/-- The style properties, by group. -/
def stylePropertyGroups : List (Text × List Text) :=
  [("layout".toText, names
    ["display", "flow", "gap", "padding", "paddingInline", "paddingBlock", "margin", "width",
     "height", "flexBasis", "flexGrow", "flexShrink", "flex"]),
   ("visual".toText, names
    ["fill", "color", "border", "radius", "shadow", "outline", "outlineOffset", "fade", "image",
     "opacity"]),
   ("typography".toText, names
    ["preset", "font", "textAlign", "textTransform", "fontWeight", "fontStyle", "whiteSpace",
     "textDecoration", "textOverflow", "wordBreak", "letterSpacing", "lineHeight"]),
   ("grid".toText, names
    ["gridColumns", "gridRows", "gridTemplate", "gridAreas", "gridColumn", "gridRow", "gridArea"]),
   ("alignment".toText, names
    ["align", "justify", "place", "placeContent", "placeItems", "alignItems", "alignContent",
     "justifyItems", "justifyContent", "placeSelf", "alignSelf", "justifySelf"]),
   ("position".toText, names
    ["position", "inset", "top", "right", "bottom", "left", "zIndex", "order"]),
   ("other".toText, names
    ["overflow", "scrollbar", "transition", "animation", "hide", "reset", "cursor",
     "pointerEvents", "userSelect", "visibility", "transform", "transformOrigin", "filter",
     "backdropFilter", "mixBlendMode", "isolation", "content", "listStyle", "appearance",
     "resize", "objectFit", "objectPosition", "aspectRatio", "boxSizing", "container",
     "containerName", "containerType", "clip", "clipPath", "mask", "maskImage", "willChange",
     "touchAction", "scrollBehavior", "scrollSnapType", "scrollSnapAlign", "caretColor",
     "accentColor"]),
   ("special".toText, names
    ["@keyframes", "@properties", "$"])]

/-- All style properties, group after group. -/
def styleProperties : List Text := stylePropertyGroups.flatMap (·.2)

/-! ## §2 Units -/

/-- Units that every project has, whatever its `units` are. -/
def builtInUnits : List Text := names
  ["x", "r", "cr", "bw", "ow", "fs", "lh", "sf"]

/-- Units of the style sheet language. The lexer leaves them to it, so `unitRule` never sees them
unless a project lists one. -/
def cssUnits : List Text := names
  ["px", "em", "rem", "%", "vw", "vh", "vmin", "vmax", "dvw", "dvh", "svw", "svh", "lvw", "lvh",
   "ch", "ex", "cap", "ic", "lh", "rlh", "cqw", "cqh", "cqi", "cqb", "cqmin", "cqmax", "deg",
   "rad", "grad", "turn", "s", "ms", "fr"]

/-- What the built-in units mean. -/
def unitMeanings : List (Text × Text) :=
  [("x".toText, "gap multiplier (e.g., 2x = 2 * $gap)".toText),
   ("r".toText, "radius unit (e.g., 1r = $radius)".toText),
   ("cr".toText, "card radius (e.g., 1cr = $card-radius)".toText),
   ("bw".toText, "border width (e.g., 1bw = $border-width)".toText),
   ("ow".toText, "outline width (e.g., 1ow = $outline-width)".toText),
   ("fs".toText, "font size".toText),
   ("lh".toText, "line height".toText),
   ("sf".toText, "stable fraction (grid layout)".toText)]

/-- What a unit means; a unit that is not built in belongs to the project. -/
def unitMeaning (unit : Text) : Text := (unitMeanings.lookup unit).getD "custom unit".toText

/-! ## §3 Words of values -/

/-- Modifiers that combine with any preset; under the property `preset` they are accepted and
suggested. -/
def presetModifiers : List Text := names
  ["strong", "italic", "icon", "tight"]

/-- Directions. -/
def directionModifiers : List Text := names
  ["top", "right", "bottom", "left", "inline", "block", "inline-start", "inline-end",
   "block-start", "block-end"]

/-- Functions of the style sheet language. -/
def cssFunctions : List Text := names
  ["calc", "min", "max", "clamp", "abs", "sign", "round", "mod", "rem", "sin", "cos", "tan",
   "asin", "acos", "atan", "atan2", "pow", "sqrt", "hypot", "log", "exp", "rgb", "rgba", "hsl",
   "hsla", "hwb", "lab", "lch", "oklch", "oklab", "okhsl", "color", "color-mix", "light-dark",
   "linear-gradient", "radial-gradient", "conic-gradient", "repeating-linear-gradient",
   "repeating-radial-gradient", "repeating-conic-gradient", "translate", "translateX",
   "translateY", "translateZ", "translate3d", "rotate", "rotateX", "rotateY", "rotateZ",
   "rotate3d", "scale", "scaleX", "scaleY", "scaleZ", "scale3d", "skew", "skewX", "skewY",
   "matrix", "matrix3d", "perspective", "blur", "brightness", "contrast", "drop-shadow",
   "grayscale", "hue-rotate", "invert", "opacity", "saturate", "sepia", "url", "var", "env",
   "attr", "counter", "counters", "image", "image-set", "cross-fade", "element", "paint", "path",
   "polygon", "circle", "ellipse", "inset", "rect", "xywh", "fit-content", "minmax", "repeat"]

/-- Values that every property accepts. They are words like any other to the lexer, so `presetRule`
and `recipeRule` let them pass. -/
def cssGlobalValues : List Text := names
  ["inherit", "initial", "unset", "revert", "revert-layer"]

/-- Colours that exist without being configured; they take an opacity like any other. -/
def reservedColorTokens : List Text := names
  ["#current"]

/-! ## §4 Words of selectors -/

/-- Pseudo-classes. -/
def pseudoClasses : List Text := names
  ["hover", "focus", "focus-visible", "focus-within", "active", "visited", "target",
   "first-child", "last-child", "first-of-type", "last-of-type", "only-child", "only-of-type",
   "nth-child", "nth-last-child", "nth-of-type", "nth-last-of-type", "empty", "enabled",
   "disabled", "checked", "indeterminate", "default", "valid", "invalid", "in-range",
   "out-of-range", "required", "optional", "read-only", "read-write", "placeholder-shown",
   "autofill", "root", "host", "host-context", "is", "where", "not", "has", "dir", "lang",
   "any-link", "link", "local-link", "scope", "current", "past", "future", "playing", "paused",
   "seeking", "buffering", "stalled", "muted", "volume-locked", "fullscreen",
   "picture-in-picture", "modal", "user-valid", "user-invalid", "defined", "popover-open", "open",
   "closed", "state"]

/-- Pseudo-elements. -/
def pseudoElements : List Text := names
  ["before", "after", "first-line", "first-letter", "selection", "placeholder", "marker",
   "backdrop", "file-selector-button", "cue", "cue-region", "part", "slotted"]

/-- Pseudo-classes whose argument is a selector. -/
def selectorPseudoClasses : List Text := names
  ["has", "is", "where", "not"]

end StyleCheck.Vocabulary
