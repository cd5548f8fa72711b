import Linting.Text.Integer
import Linting.Text.Lower

/-! Colours of a terminal with 256 of them: by name, by number, or mixed from red, green and blue
and then shown as the nearest of the palette. -/

namespace Linting.Terminal
set_option autoImplicit false

inductive Shade where
  | standard
  | palette (number : Nat)
  | mixed (red green blue : Nat)
deriving DecidableEq, Repr

structure Colour where
  name : String
  shade : Shade
deriving DecidableEq, Repr

/-- Why a part of a mixture of colours is no number: there is nothing of it, or it has more digits
than may be read. -/
inductive PartFault where
  | empty
  | tooManyDigits (digits : Nat)
deriving DecidableEq, Repr

def PartFault.message : PartFault → String
  | empty => "invalid literal for int() with base 10: ''"
  | tooManyDigits digits => Text.digitsMessage digits

namespace Colour

/-! ## Reading -/

def names : List (String × Nat) := [
  ("black", 0), ("red", 1), ("green", 2), ("yellow", 3), ("blue", 4), ("magenta", 5), ("cyan", 6),
  ("white", 7), ("bright_black", 8), ("bright_red", 9), ("bright_green", 10),
  ("bright_yellow", 11), ("bright_blue", 12), ("bright_magenta", 13), ("bright_cyan", 14),
  ("bright_white", 15), ("grey0", 16), ("gray0", 16), ("navy_blue", 17), ("dark_blue", 18),
  ("blue3", 20), ("blue1", 21), ("dark_green", 22), ("deep_sky_blue4", 25), ("dodger_blue3", 26),
  ("dodger_blue2", 27), ("green4", 28), ("spring_green4", 29), ("turquoise4", 30),
  ("deep_sky_blue3", 32), ("dodger_blue1", 33), ("green3", 40), ("spring_green3", 41),
  ("dark_cyan", 36), ("light_sea_green", 37), ("deep_sky_blue2", 38), ("deep_sky_blue1", 39),
  ("spring_green2", 47), ("cyan3", 43), ("dark_turquoise", 44), ("turquoise2", 45), ("green1", 46),
  ("spring_green1", 48), ("medium_spring_green", 49), ("cyan2", 50), ("cyan1", 51),
  ("dark_red", 88), ("deep_pink4", 125), ("purple4", 55), ("purple3", 56), ("blue_violet", 57),
  ("orange4", 94), ("grey37", 59), ("gray37", 59), ("medium_purple4", 60), ("slate_blue3", 62),
  ("royal_blue1", 63), ("chartreuse4", 64), ("dark_sea_green4", 71), ("pale_turquoise4", 66),
  ("steel_blue", 67), ("steel_blue3", 68), ("cornflower_blue", 69), ("chartreuse3", 76),
  ("cadet_blue", 73), ("sky_blue3", 74), ("steel_blue1", 81), ("pale_green3", 114),
  ("sea_green3", 78), ("aquamarine3", 79), ("medium_turquoise", 80), ("chartreuse2", 112),
  ("sea_green2", 83), ("sea_green1", 85), ("aquamarine1", 122), ("dark_slate_gray2", 87),
  ("dark_magenta", 91), ("dark_violet", 128), ("purple", 129), ("light_pink4", 95), ("plum4", 96),
  ("medium_purple3", 98), ("slate_blue1", 99), ("yellow4", 106), ("wheat4", 101), ("grey53", 102),
  ("gray53", 102), ("light_slate_grey", 103), ("light_slate_gray", 103), ("medium_purple", 104),
  ("light_slate_blue", 105), ("dark_olive_green3", 149), ("dark_sea_green", 108),
  ("light_sky_blue3", 110), ("sky_blue2", 111), ("dark_sea_green3", 150),
  ("dark_slate_gray3", 116), ("sky_blue1", 117), ("chartreuse1", 118), ("light_green", 120),
  ("pale_green1", 156), ("dark_slate_gray1", 123), ("red3", 160), ("medium_violet_red", 126),
  ("magenta3", 164), ("dark_orange3", 166), ("indian_red", 167), ("hot_pink3", 168),
  ("medium_orchid3", 133), ("medium_orchid", 134), ("medium_purple2", 140),
  ("dark_goldenrod", 136), ("light_salmon3", 173), ("rosy_brown", 138), ("grey63", 139),
  ("gray63", 139), ("medium_purple1", 141), ("gold3", 178), ("dark_khaki", 143),
  ("navajo_white3", 144), ("grey69", 145), ("gray69", 145), ("light_steel_blue3", 146),
  ("light_steel_blue", 147), ("yellow3", 184), ("dark_sea_green2", 157), ("light_cyan3", 152),
  ("light_sky_blue1", 153), ("green_yellow", 154), ("dark_olive_green2", 155),
  ("dark_sea_green1", 193), ("pale_turquoise1", 159), ("deep_pink3", 162), ("magenta2", 200),
  ("hot_pink2", 169), ("orchid", 170), ("medium_orchid1", 207), ("orange3", 172),
  ("light_pink3", 174), ("pink3", 175), ("plum3", 176), ("violet", 177), ("light_goldenrod3", 179),
  ("tan", 180), ("misty_rose3", 181), ("thistle3", 182), ("plum2", 183), ("khaki3", 185),
  ("light_goldenrod2", 222), ("light_yellow3", 187), ("grey84", 188), ("gray84", 188),
  ("light_steel_blue1", 189), ("yellow2", 190), ("dark_olive_green1", 192), ("honeydew2", 194),
  ("light_cyan1", 195), ("red1", 196), ("deep_pink2", 197), ("deep_pink1", 199), ("magenta1", 201),
  ("orange_red1", 202), ("indian_red1", 204), ("hot_pink", 206), ("dark_orange", 208),
  ("salmon1", 209), ("light_coral", 210), ("pale_violet_red1", 211), ("orchid2", 212),
  ("orchid1", 213), ("orange1", 214), ("sandy_brown", 215), ("light_salmon1", 216),
  ("light_pink1", 217), ("pink1", 218), ("plum1", 219), ("gold1", 220), ("navajo_white1", 223),
  ("misty_rose1", 224), ("thistle1", 225), ("yellow1", 226), ("light_goldenrod1", 227),
  ("khaki1", 228), ("wheat1", 229), ("cornsilk1", 230), ("grey100", 231), ("gray100", 231),
  ("grey3", 232), ("gray3", 232), ("grey7", 233), ("gray7", 233), ("grey11", 234), ("gray11", 234),
  ("grey15", 235), ("gray15", 235), ("grey19", 236), ("gray19", 236), ("grey23", 237),
  ("gray23", 237), ("grey27", 238), ("gray27", 238), ("grey30", 239), ("gray30", 239),
  ("grey35", 240), ("gray35", 240), ("grey39", 241), ("gray39", 241), ("grey42", 242),
  ("gray42", 242), ("grey46", 243), ("gray46", 243), ("grey50", 244), ("gray50", 244),
  ("grey54", 245), ("gray54", 245), ("grey58", 246), ("gray58", 246), ("grey62", 247),
  ("gray62", 247), ("grey66", 248), ("gray66", 248), ("grey70", 249), ("gray70", 249),
  ("grey74", 250), ("gray74", 250), ("grey78", 251), ("gray78", 251), ("grey82", 252),
  ("gray82", 252), ("grey85", 253), ("gray85", 253), ("grey89", 254), ("gray89", 254),
  ("grey93", 255), ("gray93", 255)]

/-- The number that digits of any script stand for. -/
def decimal (digits : List Char) : Nat :=
  Text.ofDigits (digits.filterMap fun c => Unicode.digitValue? c.toNat)

def hexValue? (c : Char) : Option Nat :=
  if c.isDigit then some (c.toNat - '0'.toNat)
  else if 'a' ≤ c ∧ c ≤ 'f' then some (c.toNat - 'a'.toNat + 10)
  else none

/-- What stands between a text and a closing parenthesis at the end. -/
def between? (opening : String) (text : List Char) : Option (List Char) :=
  if opening.toList.isPrefixOf text && text.getLast? = some ')' then
    some ((text.drop opening.length).dropLast)
  else none

def numbered? (text : List Char) : Option Shade :=
  match between? "color(" text with
  | some digits =>
    if digits ≠ [] ∧ digits.length ≤ 3 ∧ digits.all Char.isDigit ∧ decimal digits ≤ 255 then
      some (.palette (decimal digits))
    else none
  | none => none

def readPart (digits : List Char) : Except PartFault Nat :=
  if digits.isEmpty then .error .empty
  else if Text.digitLimit < digits.length then .error (.tooManyDigits digits.length)
  else .ok (decimal digits)

def isPartChar (c : Char) : Bool := c = ',' || Unicode.isDigit c.toNat

def parts? (text : List Char) : Option (List (List Char)) :=
  ((between? "rgb(" text).filter (·.all isPartChar)).map (·.splitOn ',')

/-- Reads a mixture, whose parts are looked at only if there are three of them. -/
def mixed (text : List Char) : Except PartFault (Option Shade) :=
  match parts? text with
  | some [red, green, blue] => do
    let red ← readPart red
    let green ← readPart green
    let blue ← readPart blue
    if red ≤ 255 ∧ green ≤ 255 ∧ blue ≤ 255 then return some (.mixed red green blue)
    return none
  | _ => .ok none

def hex? : List Char → Option Shade
  | ['#', a, b, c, d, e, f] =>
    match [a, b, c, d, e, f].mapM hexValue? with
    | some [a, b, c, d, e, f] => some (.mixed (16 * a + b) (16 * c + d) (16 * e + f))
    | _ => none
  | _ => none

/-- Reads a colour; case does not matter. A word that is none is one thing, a mixture with a part
that is no number another. -/
def read (word : String) : Except PartFault (Option Colour) :=
  let name := String.ofList (Text.lowerText word.toList)
  let simple := if name = "default" then some Shade.standard
    else ((names.lookup name).map .palette).or ((hex? name.toList).or (numbered? name.toList))
  match simple with
  | some shade => .ok (some ⟨name, shade⟩)
  | none => (mixed name.toList).map fun shade => shade.map fun shade => ⟨name, shade⟩

/-! ## Showing -/

/-- A quotient, rounded to the nearest whole number and halves to the even one. -/
def roundHalfEven (n d : Nat) : Nat :=
  let q := n / d
  if 2 * (n % d) < d then q
  else if d < 2 * (n % d) then q + 1
  else q + q % 2

/-- The step of the colour cube nearest to an intensity. -/
def cubeStep (intensity : Nat) : Nat :=
  if intensity < 95 then roundHalfEven intensity 95 else roundHalfEven (intensity - 55) 40

/-- Whether a mixture is so weak in colour that it is shown as a grey. -/
def isGreyish (low high : Nat) : Bool :=
  let lightness := low + high
  100 * (high - low) < 15 * (if lightness ≤ 255 then lightness else 510 - lightness)
    || high = low

def nearest (red green blue : Nat) : Nat :=
  let high := max red (max green blue)
  let low := min red (min green blue)
  if isGreyish low high then
    match roundHalfEven (25 * (low + high)) 510 with
    | 0 => 16
    | 25 => 231
    | grey => 231 + grey
  else 16 + 36 * cubeStep red + 6 * cubeStep green + cubeStep blue

/-- The parameters that switch a colour on; those of the background are ten higher. -/
def codes (c : Colour) (background : Bool) : List Nat :=
  let offset := if background then 10 else 0
  match c.shade with
  | .standard => [39 + offset]
  | .palette number =>
    if number < 8 then [30 + offset + number]
    else if number < 16 then [82 + offset + number]
    else [38 + offset, 5, number]
  | .mixed red green blue => [38 + offset, 5, nearest red green blue]

end Colour

end Linting.Terminal
