import FlowSelect.Text.Blank
import FlowSelect.Text.Case
import FlowSelect.Text.DecimalDigit
/-! Style definitions: the words of a markup tag read as a style.

A style definition is a list of words separated by blanks, read left to right. An attribute
word (`bold` or `b`, `dim` or `d`, `italic` or `i`, `underline` or `u`, `blink`, `blink2`,
`reverse` or `r`, `conceal` or `c`, `strike` or `s`, `underline2` or `uu`, `frame`,
`encircle`, `overline` or `o`) turns the attribute on, and `not` before one turns it off; `on`
before a color sets the background, `link` before a word sets the link, and any other word must
be a color, which becomes the foreground. Words are compared in lower case, except the word after
`not`, which must already be. A color is `default`, one of the named colors, `#` and six
lower-case hex digits, `color(n)` with `n` at most 255, or `rgb(r,g,b)` with three components of
at most 255. An `rgb` color whose components are decimal digits and blanks but one of which is
empty (or has a blank inside) breaks the reading altogether, which is not the same as being
refused.

The normal form of a definition lists the attributes set in a fixed order, then the foreground,
the background after `on` and the link after `link`, or is `none`. A definition that is refused
is normalized to itself trimmed and in lower case. Two definitions name the same style when
their normal forms are equal. -/
namespace FlowSelect.Console

/-- The attributes a style can set, in the order a normal form lists them. -/
inductive Attribute where
  | bold
  | dim
  | italic
  | underline
  | blink
  | blink2
  | reverse
  | conceal
  | strike
  | underline2
  | frame
  | encircle
  | overline
  deriving DecidableEq, Repr

/-- Every attribute, in the order a normal form lists them. -/
def Attribute.all : List Attribute :=
  [.bold, .dim, .italic, .underline, .blink, .blink2, .reverse, .conceal, .strike, .underline2,
   .frame, .encircle, .overline]

/-- The name of an attribute in a normal form. -/
def Attribute.name : Attribute → String
  | .bold => "bold"
  | .dim => "dim"
  | .italic => "italic"
  | .underline => "underline"
  | .blink => "blink"
  | .blink2 => "blink2"
  | .reverse => "reverse"
  | .conceal => "conceal"
  | .strike => "strike"
  | .underline2 => "underline2"
  | .frame => "frame"
  | .encircle => "encircle"
  | .overline => "overline"

/-- The attribute a word names, by its name or its short form. -/
def Attribute.ofWord? : String → Option Attribute
  | "bold" | "b" => some .bold
  | "dim" | "d" => some .dim
  | "italic" | "i" => some .italic
  | "underline" | "u" => some .underline
  | "blink" => some .blink
  | "blink2" => some .blink2
  | "reverse" | "r" => some .reverse
  | "conceal" | "c" => some .conceal
  | "strike" | "s" => some .strike
  | "underline2" | "uu" => some .underline2
  | "frame" => some .frame
  | "encircle" => some .encircle
  | "overline" | "o" => some .overline
  | _ => none

/-- The named colors. -/
def colorNames : List String :=
  ["black", "red", "green", "yellow", "blue", "magenta", "cyan", "white", "bright_black",
   "bright_red", "bright_green", "bright_yellow", "bright_blue", "bright_magenta", "bright_cyan",
   "bright_white", "grey0", "gray0", "navy_blue", "dark_blue", "blue3", "blue1", "dark_green",
   "deep_sky_blue4", "dodger_blue3", "dodger_blue2", "green4", "spring_green4", "turquoise4",
   "deep_sky_blue3", "dodger_blue1", "green3", "spring_green3", "dark_cyan", "light_sea_green",
   "deep_sky_blue2", "deep_sky_blue1", "spring_green2", "cyan3", "dark_turquoise", "turquoise2",
   "green1", "spring_green1", "medium_spring_green", "cyan2", "cyan1", "dark_red", "deep_pink4",
   "purple4", "purple3", "blue_violet", "orange4", "grey37", "gray37", "medium_purple4",
   "slate_blue3", "royal_blue1", "chartreuse4", "dark_sea_green4", "pale_turquoise4",
   "steel_blue", "steel_blue3", "cornflower_blue", "chartreuse3", "cadet_blue", "sky_blue3",
   "steel_blue1", "pale_green3", "sea_green3", "aquamarine3", "medium_turquoise", "chartreuse2",
   "sea_green2", "sea_green1", "aquamarine1", "dark_slate_gray2", "dark_magenta", "dark_violet",
   "purple", "light_pink4", "plum4", "medium_purple3", "slate_blue1", "yellow4", "wheat4",
   "grey53", "gray53", "light_slate_grey", "light_slate_gray", "medium_purple",
   "light_slate_blue", "dark_olive_green3", "dark_sea_green", "light_sky_blue3", "sky_blue2",
   "dark_sea_green3", "dark_slate_gray3", "sky_blue1", "chartreuse1", "light_green",
   "pale_green1", "dark_slate_gray1", "red3", "medium_violet_red", "magenta3", "dark_orange3",
   "indian_red", "hot_pink3", "medium_orchid3", "medium_orchid", "medium_purple2",
   "dark_goldenrod", "light_salmon3", "rosy_brown", "grey63", "gray63", "medium_purple1",
   "gold3", "dark_khaki", "navajo_white3", "grey69", "gray69", "light_steel_blue3",
   "light_steel_blue", "yellow3", "dark_sea_green2", "light_cyan3", "light_sky_blue1",
   "green_yellow", "dark_olive_green2", "dark_sea_green1", "pale_turquoise1", "deep_pink3",
   "magenta2", "hot_pink2", "orchid", "medium_orchid1", "orange3", "light_pink3", "pink3",
   "plum3", "violet", "light_goldenrod3", "tan", "misty_rose3", "thistle3", "plum2", "khaki3",
   "light_goldenrod2", "light_yellow3", "grey84", "gray84", "light_steel_blue1", "yellow2",
   "dark_olive_green1", "honeydew2", "light_cyan1", "red1", "deep_pink2", "deep_pink1",
   "magenta1", "orange_red1", "indian_red1", "hot_pink", "dark_orange", "salmon1", "light_coral",
   "pale_violet_red1", "orchid2", "orchid1", "orange1", "sandy_brown", "light_salmon1",
   "light_pink1", "pink1", "plum1", "gold1", "navajo_white1", "misty_rose1", "thistle1",
   "yellow1", "light_goldenrod1", "khaki1", "wheat1", "cornsilk1", "grey100", "gray100", "grey3",
   "gray3", "grey7", "gray7", "grey11", "gray11", "grey15", "gray15", "grey19", "gray19",
   "grey23", "gray23", "grey27", "gray27", "grey30", "gray30", "grey35", "gray35", "grey39",
   "gray39", "grey42", "gray42", "grey46", "gray46", "grey50", "gray50", "grey54", "gray54",
   "grey58", "gray58", "grey62", "gray62", "grey66", "gray66", "grey70", "gray70", "grey74",
   "gray74", "grey78", "gray78", "grey82", "gray82", "grey85", "gray85", "grey89", "gray89",
   "grey93", "gray93"]

/-- What reading a word as a color gives. -/
inductive ColorReading where
  /-- The word is a color. -/
  | valid
  /-- The word is not a color. -/
  | invalid
  /-- The word breaks the reading: an `rgb` component that is not a number. -/
  | broken
  deriving DecidableEq, Repr

/-- The name a color word is kept under: trimmed, in lower case. -/
def colorName (word : String) : String := Text.trim (Text.lower word)

/-- Whether a character is a lower-case hex digit. -/
def isLowerHex (c : Char) : Bool := ('0' ≤ c && c ≤ '9') || ('a' ≤ c && c ≤ 'f')

/-- The value of decimal digits of any script. -/
def digitsNumber (cs : List Char) : Nat :=
  cs.foldl (fun n c => 10 * n + (Text.digitValue? c).getD 0) 0

/-- What one `rgb` component gives: its value, or `none` when it breaks the reading. -/
def rgbComponent (cs : List Char) : Option Nat :=
  let t := Text.trimChars cs
  if t.isEmpty || t.any Text.isBlank then none else some (digitsNumber t)

/-- What the inside of `rgb(...)` gives, when it is made of digits, blanks and commas. -/
def readRgb (inside : List Char) : ColorReading :=
  match inside.splitOn ',' with
  | [r, g, b] =>
    match rgbComponent r, rgbComponent g, rgbComponent b with
    | some r, some g, some b => if r ≤ 255 && g ≤ 255 && b ≤ 255 then .valid else .invalid
    | _, _, _ => .broken
  | _ => .invalid

/-- What a word gives when read as a color. -/
def readColor (word : String) : ColorReading :=
  let c := colorName word
  if c == "default" || colorNames.contains c then .valid
  else match c.toList with
    | '#' :: hex => if hex.length == 6 && hex.all isLowerHex then .valid else .invalid
    | 'c' :: 'o' :: 'l' :: 'o' :: 'r' :: '(' :: rest =>
      match rest.reverse with
      | ')' :: inner =>
        let ds := inner.reverse
        if !ds.isEmpty && ds.length ≤ 3 && ds.all Text.isAsciiDigit then
          if digitsNumber ds ≤ 255 then .valid else .invalid
        else .invalid
      | _ => .invalid
    | 'r' :: 'g' :: 'b' :: '(' :: rest =>
      match rest.reverse with
      | ')' :: inner =>
        let body := inner.reverse
        if !body.isEmpty &&
            body.all (fun ch => (Text.digitValue? ch).isSome || Text.isBlank ch || ch == ',') then
          readRgb body
        else .invalid
      | _ => .invalid
    | _ => .invalid

/-- A style: the attributes it sets, on or off, and its colors and link. -/
structure Style where
  /-- The attributes set, each with whether it is on; the last setting of one counts. -/
  settings : List (Attribute × Bool)
  /-- The foreground color. -/
  color : Option String
  /-- The background color. -/
  background : Option String
  /-- The link. -/
  link : Option String
  deriving DecidableEq, Repr

/-- The style that sets nothing. -/
def Style.none : Style := ⟨[], Option.none, Option.none, Option.none⟩

/-- The style with an attribute set on or off. -/
def Style.setting (s : Style) (a : Attribute) (on : Bool) : Style :=
  { s with settings := (a, on) :: s.settings.filter (·.1 != a) }

/-- Why a definition is not a style. -/
inductive StyleFault where
  /-- The definition is refused. -/
  | refused
  /-- Reading it breaks, on an `rgb` component that is not a number. -/
  | broken
  deriving DecidableEq, Repr

/-- A color reading as the result of reading a style. -/
def ColorReading.check : ColorReading → Except StyleFault Unit
  | .valid => .ok ()
  | .invalid => .error .refused
  | .broken => .error .broken

/-- The words of a definition read into a style. -/
def readWords (s : Style) : List String → Except StyleFault Style
  | [] => .ok s
  | w :: rest =>
    let word := Text.lower w
    if word == "on" then
      match rest with
      | [] => .error .refused
      | b :: more => do
        (readColor b).check
        readWords { s with background := some (colorName b) } more
    else if word == "not" then
      match rest with
      | [] => .error .refused
      | a :: more =>
        match Attribute.ofWord? a with
        | some a => readWords (s.setting a false) more
        | Option.none => .error .refused
    else if word == "link" then
      match rest with
      | [] => .error .refused
      | l :: more => readWords { s with link := some l } more
    else
      match Attribute.ofWord? word with
      | some a => readWords (s.setting a true) rest
      | Option.none => do
        (readColor word).check
        readWords { s with color := some (colorName word) } rest

/-- A style definition read as a style. -/
def Style.read (definition : String) : Except StyleFault Style :=
  if Text.trim definition == "none" || definition.isEmpty then .ok Style.none
  else readWords Style.none (Text.words definition)

/-- The normal form of a style. -/
def Style.text (s : Style) : String :=
  let attributes := Attribute.all.filterMap fun a =>
    (s.settings.lookup a).map fun on => if on then a.name else "not " ++ a.name
  let parts := attributes ++ s.color.toList ++
    (s.background.map fun b => ["on", b]).getD [] ++ (s.link.map fun l => ["link", l]).getD []
  if parts.isEmpty then "none" else " ".intercalate parts

/-- The normal form of a style definition: of the style it reads as, or of the definition
itself, trimmed and in lower case, when it is refused; `none` when reading it breaks. -/
def normalStyle? (definition : String) : Option String :=
  match Style.read definition with
  | .ok s => some s.text
  | .error .refused => some (Text.lower (Text.trim definition))
  | .error .broken => Option.none

end FlowSelect.Console
