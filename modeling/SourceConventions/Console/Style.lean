import SourceConventions.Text.Blank
import SourceConventions.Text.Casing

/-!
# Text styles

A style is written as words: attributes, of which `not` takes one away, a colour, another one
behind `on`, and an address behind `link`. Two definitions with one normal form mean one style.
-/

namespace SourceConventions

structure TextStyle where
  attributes : List (String × Bool)
  colour : Option String
  background : Option String
  link : Option String
  deriving DecidableEq, Repr

namespace TextStyle

/-- The attributes in the order of normal forms, each with its short names. -/
def attributeNames : List (String × List String) := [
  ("bold", ["b"]), ("dim", ["d"]), ("italic", ["i"]), ("underline", ["u"]), ("blink", []),
  ("blink2", []), ("reverse", ["r"]), ("conceal", ["c"]), ("strike", ["s"]),
  ("underline2", ["uu"]), ("frame", []), ("encircle", []), ("overline", ["o"])]

def attribute? (word : String) : Option String :=
  (attributeNames.find? fun (name, short) => name == word || short.contains word).map (·.1)

def colourNames : List (List Char) :=
  Text.words "black red green yellow blue magenta cyan white bright_black bright_red bright_green
    bright_yellow bright_blue bright_magenta bright_cyan bright_white grey0 gray0 navy_blue
    dark_blue blue3 blue1 dark_green deep_sky_blue4 dodger_blue3 dodger_blue2 green4
    spring_green4 turquoise4 deep_sky_blue3 dodger_blue1 green3 spring_green3 dark_cyan
    light_sea_green deep_sky_blue2 deep_sky_blue1 spring_green2 cyan3 dark_turquoise turquoise2
    green1 spring_green1 medium_spring_green cyan2 cyan1 dark_red deep_pink4 purple4 purple3
    blue_violet orange4 grey37 gray37 medium_purple4 slate_blue3 royal_blue1 chartreuse4
    dark_sea_green4 pale_turquoise4 steel_blue steel_blue3 cornflower_blue chartreuse3 cadet_blue
    sky_blue3 steel_blue1 pale_green3 sea_green3 aquamarine3 medium_turquoise chartreuse2
    sea_green2 sea_green1 aquamarine1 dark_slate_gray2 dark_magenta dark_violet purple
    light_pink4 plum4 medium_purple3 slate_blue1 yellow4 wheat4 grey53 gray53 light_slate_grey
    light_slate_gray medium_purple light_slate_blue dark_olive_green3 dark_sea_green
    light_sky_blue3 sky_blue2 dark_sea_green3 dark_slate_gray3 sky_blue1 chartreuse1 light_green
    pale_green1 dark_slate_gray1 red3 medium_violet_red magenta3 dark_orange3 indian_red
    hot_pink3 medium_orchid3 medium_orchid medium_purple2 dark_goldenrod light_salmon3 rosy_brown
    grey63 gray63 medium_purple1 gold3 dark_khaki navajo_white3 grey69 gray69 light_steel_blue3
    light_steel_blue yellow3 dark_sea_green2 light_cyan3 light_sky_blue1 green_yellow
    dark_olive_green2 dark_sea_green1 pale_turquoise1 deep_pink3 magenta2 hot_pink2 orchid
    medium_orchid1 orange3 light_pink3 pink3 plum3 violet light_goldenrod3 tan misty_rose3
    thistle3 plum2 khaki3 light_goldenrod2 light_yellow3 grey84 gray84 light_steel_blue1 yellow2
    dark_olive_green1 honeydew2 light_cyan1 red1 deep_pink2 deep_pink1 magenta1 orange_red1
    indian_red1 hot_pink dark_orange salmon1 light_coral pale_violet_red1 orchid2 orchid1 orange1
    sandy_brown light_salmon1 light_pink1 pink1 plum1 gold1 navajo_white1 misty_rose1 thistle1
    yellow1 light_goldenrod1 khaki1 wheat1 cornsilk1 grey100 gray100 grey3 gray3 grey7 gray7
    grey11 gray11 grey15 gray15 grey19 gray19 grey23 gray23 grey27 gray27 grey30 gray30 grey35
    gray35 grey39 gray39 grey42 gray42 grey46 gray46 grey50 gray50 grey54 gray54 grey58 gray58
    grey62 gray62 grey66 gray66 grey70 gray70 grey74 gray74 grey78 gray78 grey82 gray82 grey85
    gray85 grey89 gray89 grey93 gray93".toList

def isHexDigit (c : Char) : Bool := c.isDigit || ('a' ≤ c && c ≤ 'f')

/-- A number of the palette or of a colour component. -/
def isShade (digits : List Char) : Bool :=
  !digits.isEmpty && digits.all Char.isDigit && (String.ofList digits).toNat?.any (· ≤ 255)

/-- What stands in the brackets behind a word. -/
def bracketed? (word cs : List Char) : Option (List Char) :=
  if word.isPrefixOf cs && cs.getLast? == some ')' then some (cs.drop word.length).dropLast else none

/-- Whether a word in small letters is the name or the number of a colour. -/
def isColour (word : List Char) : Bool :=
  word == ['d', 'e', 'f', 'a', 'u', 'l', 't'] || colourNames.contains word
    || (word.head? == some '#' && word.length == 7 && (word.drop 1).all isHexDigit)
    || (bracketed? ['c', 'o', 'l', 'o', 'r', '('] word).any (fun n => n.length ≤ 3 && isShade n)
    || (bracketed? ['r', 'g', 'b', '('] word).any fun ns =>
        (ns.splitOn ',').length == 3 && (ns.splitOn ',').all isShade

def empty : TextStyle := ⟨[], none, none, none⟩

def set (s : TextStyle) (name : String) (on : Bool) : TextStyle :=
  { s with attributes := (name, on) :: s.attributes.filter (·.1 != name) }

/-- Reads words into a style; none if one of them has no meaning. -/
def ofWords? (s : TextStyle) (words : List String) : Option TextStyle :=
  match words with
  | [] => some s
  | original :: others =>
    let word := Text.lowered original
    if word = "on" then
      match others with
      | [] => none
      | ground :: rest =>
        let ground := Text.lowered ground
        if isColour ground.toList then ofWords? { s with background := some ground } rest else none
    else if word = "not" then
      match others with
      | [] => none
      | name :: rest => (attribute? name).bind fun a => ofWords? (s.set a false) rest
    else if word = "link" then
      match others with
      | [] => none
      | address :: rest => ofWords? { s with link := some address } rest
    else
      match attribute? word with
      | some a => ofWords? (s.set a true) others
      | none => if isColour word.toList then ofWords? { s with colour := some word } others else none
termination_by words.length

def text (s : TextStyle) : String :=
  let attributes := attributeNames.filterMap fun (name, _) =>
    (s.attributes.lookup name).map fun on => if on then name else s!"not {name}"
  let words := attributes ++ s.colour.toList ++ (s.background.map fun c => s!"on {c}").toList
    ++ (s.link.map fun a => s!"link {a}").toList
  if words.isEmpty then "none" else " ".intercalate words

/-- The normal form of a definition; one without a meaning has only its case and its margins
removed. -/
def normalForm (cs : List Char) : String :=
  let trimmed := String.ofList (Text.trimBlanks cs)
  if cs.isEmpty || trimmed == "none" then "none"
  else
    match ofWords? empty ((Text.words cs).map String.ofList) with
    | some s => s.text
    | none => Text.lowered trimmed

end TextStyle

end SourceConventions
