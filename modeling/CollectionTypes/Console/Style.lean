import CollectionTypes.Console.Picture
import CollectionTypes.Text.Digit

/-!
# Styles and their normal form

A style is written as words: attributes, a colour, a second colour after
`on`, an address after `link`. The same style can be written in several
ways, and `normalForm` picks one of them: attributes by their long names
in a fixed order, then the colours, then the address. Words that make no
style are their own normal form, in small letters.

A colour may be three numbers. Where one of the three is left out or has
too many digits, reading the style breaks off with a `ComponentFault`.
-/

namespace CollectionTypes.Console

/-- The attributes, in the order in which a normal form lists them. -/
def attributes : List String :=
  ["bold", "dim", "italic", "underline", "blink", "blink2", "reverse", "conceal",
    "strike", "underline2", "frame", "encircle", "overline"]

/-- The short spellings of attributes. -/
def shortAttributes : List (String × String) :=
  [("d", "dim"), ("b", "bold"), ("i", "italic"), ("u", "underline"), ("r", "reverse"),
    ("c", "conceal"), ("s", "strike"), ("uu", "underline2"), ("o", "overline")]

/-- The attribute that a word names. -/
def attribute? (word : String) : Option String :=
  match shortAttributes.find? fun a => a.1 == word with
  | some a => some a.2
  | none => attributes.find? (· == word)

/-- The colours that have a name. -/
def colourNames : List String :=
  ["black", "red", "green", "yellow", "blue", "magenta", "cyan", "white",
    "bright_black", "bright_red", "bright_green", "bright_yellow",
    "bright_blue", "bright_magenta", "bright_cyan", "bright_white",
    "grey0", "gray0", "navy_blue", "dark_blue", "blue3", "blue1",
    "dark_green", "deep_sky_blue4", "dodger_blue3", "dodger_blue2",
    "green4", "spring_green4", "turquoise4", "deep_sky_blue3",
    "dodger_blue1", "green3", "spring_green3", "dark_cyan",
    "light_sea_green", "deep_sky_blue2", "deep_sky_blue1", "spring_green2",
    "cyan3", "dark_turquoise", "turquoise2", "green1", "spring_green1",
    "medium_spring_green", "cyan2", "cyan1", "dark_red", "deep_pink4",
    "purple4", "purple3", "blue_violet", "orange4", "grey37", "gray37",
    "medium_purple4", "slate_blue3", "royal_blue1", "chartreuse4",
    "dark_sea_green4", "pale_turquoise4", "steel_blue", "steel_blue3",
    "cornflower_blue", "chartreuse3", "cadet_blue", "sky_blue3",
    "steel_blue1", "pale_green3", "sea_green3", "aquamarine3",
    "medium_turquoise", "chartreuse2", "sea_green2", "sea_green1",
    "aquamarine1", "dark_slate_gray2", "dark_magenta", "dark_violet",
    "purple", "light_pink4", "plum4", "medium_purple3", "slate_blue1",
    "yellow4", "wheat4", "grey53", "gray53", "light_slate_grey",
    "light_slate_gray", "medium_purple", "light_slate_blue",
    "dark_olive_green3", "dark_sea_green", "light_sky_blue3", "sky_blue2",
    "dark_sea_green3", "dark_slate_gray3", "sky_blue1", "chartreuse1",
    "light_green", "pale_green1", "dark_slate_gray1", "red3",
    "medium_violet_red", "magenta3", "dark_orange3", "indian_red",
    "hot_pink3", "medium_orchid3", "medium_orchid", "medium_purple2",
    "dark_goldenrod", "light_salmon3", "rosy_brown", "grey63", "gray63",
    "medium_purple1", "gold3", "dark_khaki", "navajo_white3", "grey69",
    "gray69", "light_steel_blue3", "light_steel_blue", "yellow3",
    "dark_sea_green2", "light_cyan3", "light_sky_blue1", "green_yellow",
    "dark_olive_green2", "dark_sea_green1", "pale_turquoise1",
    "deep_pink3", "magenta2", "hot_pink2", "orchid", "medium_orchid1",
    "orange3", "light_pink3", "pink3", "plum3", "violet",
    "light_goldenrod3", "tan", "misty_rose3", "thistle3", "plum2",
    "khaki3", "light_goldenrod2", "light_yellow3", "grey84", "gray84",
    "light_steel_blue1", "yellow2", "dark_olive_green1", "honeydew2",
    "light_cyan1", "red1", "deep_pink2", "deep_pink1", "magenta1",
    "orange_red1", "indian_red1", "hot_pink", "dark_orange", "salmon1",
    "light_coral", "pale_violet_red1", "orchid2", "orchid1", "orange1",
    "sandy_brown", "light_salmon1", "light_pink1", "pink1", "plum1",
    "gold1", "navajo_white1", "misty_rose1", "thistle1", "yellow1",
    "light_goldenrod1", "khaki1", "wheat1", "cornsilk1", "grey100",
    "gray100", "grey3", "gray3", "grey7", "gray7", "grey11", "gray11",
    "grey15", "gray15", "grey19", "gray19", "grey23", "gray23", "grey27",
    "gray27", "grey30", "gray30", "grey35", "gray35", "grey39", "gray39",
    "grey42", "gray42", "grey46", "gray46", "grey50", "gray50", "grey54",
    "gray54", "grey58", "gray58", "grey62", "gray62", "grey66", "gray66",
    "grey70", "gray70", "grey74", "gray74", "grey78", "gray78", "grey82",
    "gray82", "grey85", "gray85", "grey89", "gray89", "grey93", "gray93"]

/-- **Why a component of a colour is no number.** -/
inductive ComponentFault where
  /-- There is nothing between two commas. -/
  | missing
  /-- There are too many digits. -/
  | tooLong (digits : Nat)

/-- The wording of the fault. -/
def ComponentFault.message : ComponentFault → String
  | missing => "invalid literal for int() with base 10: ''"
  | tooLong digits => Text.tooManyDigits digits

/-- A component of a colour, which consists of digits. -/
def component (digits : List Char) : Except ComponentFault Nat :=
  if digits.isEmpty then .error .missing
  else if Text.maxDigits < digits.length then .error (.tooLong digits.length)
  else .ok ((Text.unsigned? digits).getD 0)

/-- Whether three components, written between commas, make up a colour. -/
def isComponents (cs : List Char) : Except ComponentFault Bool :=
  match Text.cutAt ',' cs with
  | [red, green, blue] => do
    let red ← component red
    let green ← component green
    let blue ← component blue
    return red ≤ 255 && green ≤ 255 && blue ≤ 255
  | _ => .ok false

/-- What stands between a word with an opening parenthesis and a closing
parenthesis at the end. -/
def argument? (opening : String) (cs : List Char) : Option (List Char) :=
  if opening.toList.isPrefixOf cs && cs.getLast? == some ')' then
    some (cs.drop opening.length).dropLast
  else none

/-- Whether a number of up to three digits is the number of a colour. -/
def isColourNumber (digits : List Char) : Bool :=
  digits.length ≤ 3 && digits.all Char.isDigit
    && (match Text.unsigned? digits with
      | some n => n ≤ 255
      | none => false)

/-- Whether characters can be components with commas between them. -/
def areComponents (cs : List Char) : Bool :=
  !cs.isEmpty && cs.all fun c => c == ',' || (Text.digit? c).isSome

/-- Whether a word in small letters is a colour: a name, six digits in base
sixteen, a number, or three components. -/
def isColour (word : String) : Except ComponentFault Bool :=
  let cs := word.toList
  if word == "default" || colourNames.contains word
      || (match cs with
        | '#' :: digits => digits.length == 6 && digits.all fun c =>
            c.isDigit || ('a' ≤ c && c ≤ 'f')
        | _ => false)
      || (match argument? "color(" cs with
        | some n => isColourNumber n
        | none => false) then .ok true
  else
    match argument? "rgb(" cs with
    | some ns => if areComponents ns then isComponents ns else .ok false
    | none => .ok false

/-- **A style.** -/
structure Style where
  /-- The attributes that are switched on or off. -/
  switched : List (String × Bool) := []
  colour : Option String := none
  background : Option String := none
  link : Option String := none

namespace Style

/-- The style with an attribute switched on or off. -/
def switch (s : Style) (name : String) (on : Bool) : Style :=
  { s with switched := (name, on) :: s.switched }

/-- **A style with what words add to it**; nothing if one of them is no
word of a style. The words are read one by one, so that a fault behind such
a word goes unnoticed. -/
def addWords (s : Style) : List String → Except ComponentFault (Option Style)
  | [] => .ok (some s)
  | word :: rest =>
    match Text.lowercase word with
    | "on" =>
      match rest with
      | [] => .ok none
      | colour :: rest => do
        if ← isColour (Text.lowercase colour) then
          addWords { s with background := some (Text.lowercase colour) } rest
        else return none
    | "not" =>
      match rest with
      | [] => .ok none
      | name :: rest =>
        match attribute? name with
        | some a => (s.switch a false).addWords rest
        | none => .ok none
    | "link" =>
      match rest with
      | [] => .ok none
      | address :: rest => addWords { s with link := some address } rest
    | small =>
      match attribute? small with
      | some a => (s.switch a true).addWords rest
      | none => do
        if ← isColour small then addWords { s with colour := some small } rest
        else return none

/-- The style that a text describes, if it describes one. -/
def ofChars (cs : List Char) : Except ComponentFault (Option Style) :=
  addWords {} (wordsOf cs)

/-- The words of a style in its normal form. -/
def words (s : Style) : List String :=
  (attributes.filterMap fun a =>
    (s.switched.find? fun x => x.1 == a).map fun x => if x.2 then a else "not " ++ a)
    ++ s.colour.toList
    ++ (s.background.map ("on " ++ ·)).toList
    ++ (s.link.map ("link " ++ ·)).toList

end Style

/-- **The normal form of a style.** -/
def normalForm (cs : List Char) : Except ComponentFault String := do
  match ← Style.ofChars cs with
  | some s => return if s.words.isEmpty then "none" else " ".intercalate s.words
  | none => return String.ofList (Text.lowerAll (Text.trimBlanks cs))

end CollectionTypes.Console
