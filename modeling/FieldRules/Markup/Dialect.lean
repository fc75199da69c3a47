import FieldRules.Markup.Tree

/-!
# Names in drawings and formulas

The names in drawings and formulas have capital letters, which tags need not have.
-/

namespace FieldRules.Markup

/-- The names of elements of drawings that have capital letters. -/
def drawingElements : List String :=
  ["altGlyph", "altGlyphDef", "altGlyphItem", "animateColor", "animateMotion", "animateTransform",
   "clipPath", "feBlend", "feColorMatrix", "feComponentTransfer", "feComposite",
   "feConvolveMatrix", "feDiffuseLighting", "feDisplacementMap", "feDistantLight", "feFlood",
   "feFuncA", "feFuncB", "feFuncG", "feFuncR", "feGaussianBlur", "feImage", "feMerge",
   "feMergeNode", "feMorphology", "feOffset", "fePointLight", "feSpecularLighting", "feSpotLight",
   "feTile", "feTurbulence", "foreignObject", "glyphRef", "linearGradient", "radialGradient",
   "textPath"]

/-- The names of attributes of drawings that have capital letters. -/
def drawingAttributes : List String :=
  ["attributeName", "attributeType", "baseFrequency", "baseProfile", "calcMode", "clipPathUnits",
   "contentScriptType", "contentStyleType", "diffuseConstant", "edgeMode",
   "externalResourcesRequired", "filterRes", "filterUnits", "glyphRef", "gradientTransform",
   "gradientUnits", "kernelMatrix", "kernelUnitLength", "keyPoints", "keySplines", "keyTimes",
   "lengthAdjust", "limitingConeAngle", "markerHeight", "markerUnits", "markerWidth",
   "maskContentUnits", "maskUnits", "numOctaves", "pathLength", "patternContentUnits",
   "patternTransform", "patternUnits", "pointsAtX", "pointsAtY", "pointsAtZ", "preserveAlpha",
   "preserveAspectRatio", "primitiveUnits", "refX", "refY", "repeatCount", "repeatDur",
   "requiredExtensions", "requiredFeatures", "specularConstant", "specularExponent",
   "spreadMethod", "startOffset", "stdDeviation", "stitchTiles", "surfaceScale",
   "systemLanguage", "tableValues", "targetX", "targetY", "textLength", "viewBox", "viewTarget",
   "xChannelSelector", "yChannelSelector", "zoomAndPan"]

/-- Tags that can only be tags of a page. -/
def pageTags : List String :=
  ["b", "big", "blockquote", "body", "br", "center", "code", "dd", "div", "dl", "dt", "em",
   "embed", "h1", "h2", "h3", "h4", "h5", "h6", "head", "hr", "i", "img", "li", "listing", "menu",
   "meta", "nobr", "ol", "p", "pre", "ruby", "s", "small", "span", "strong", "strike", "sub",
   "sup", "table", "tt", "u", "ul", "var"]

/-- A name in lower case. -/
def lowerName (name : String) : String := String.ofList (name.toList.map lowerAscii)

/-- A name as it is written in a language, from the names with capital letters. -/
def properName (proper : List String) (name : String) : String :=
  (proper.find? (lowerName · = name)).getD name

/-- The attributes of a tag as they are written in a language. -/
def properAttributes (dialect : Dialect) (attributes : Entries String) : Entries String :=
  let proper :=
    match dialect with
    | .html => []
    | .svg => drawingAttributes
    | .math => ["definitionURL"]
  attributes.map fun a => (properName proper a.1, a.2)

/-- A tag as it is written in the language of the element that it stands in. -/
def StartTag.within (tag : StartTag) (dialect : Dialect) : StartTag :=
  { tag with
    name := if dialect = .svg then properName drawingElements tag.name else tag.name
    attributes := properAttributes dialect tag.attributes }

/-- Whether a tag can only be a tag of a page. -/
def StartTag.isOfPage (tag : StartTag) : Bool :=
  tag.name ∈ pageTags ||
    (tag.name = "font" && tag.attributes.any fun a => a.1 ∈ ["color", "face", "size"])

end FieldRules.Markup
