import Pppcpd.Foundation.OrderedMap
import Pppcpd.Foundation.Table
import Pppcpd.Foundation.Words
import Pppcpd.Radius.Avp

namespace Pppcpd

open Foundation

/-!
# Reading a dictionary

`parseFreeradDict` reads a dictionary file line by line.  A line is cut at every
blank, and `std::remove_if` moves the words to the front of the fields.  Its
result is not used, so there are as many fields as before, and those behind the
words hold unspecified strings, which the model takes from a list.
-/

/-- The blanks of `is_any_of`. -/
def isFieldBlank (letter : UInt8) : Bool := letter == 32 || letter == 9

def newline : UInt8 := 10

def hash : UInt8 := 35

/-- `std::isspace`. -/
def isSpace (letter : UInt8) : Bool := letter == 32 || (decide (9 ≤ letter) && decide (letter ≤ 13))

def isDigit (letter : UInt8) : Bool := decide (48 ≤ letter) && decide (letter ≤ 57)

/-- The number that decimal digits write. -/
def digitsValue (digits : Bytes) : Nat :=
  digits.foldl (fun value letter => 10 * value + (letter.toNat - 48)) 0

/-- The numbers above the range of `int`. -/
def intLimit : Nat := 2147483648

/-- `std::stoi`.  It throws, here `none`, when there is no digit or the number
is out of range. -/
def stoi (text : Bytes) : Option Int :=
  let trimmed := text.dropWhile isSpace
  let negative := trimmed.head? == some 45
  let unsigned := if trimmed.head? == some 45 || trimmed.head? == some 43 then trimmed.tail else trimmed
  let digits := unsigned.takeWhile isDigit
  let value : Int := if negative then -(digitsValue digits : Int) else digitsValue digits
  if digits = [] then none
  else if -(intLimit : Int) ≤ value ∧ value < intLimit then some value
  else none

namespace RadiusDict

/-- `attrs`, or the attributes of a vendor. -/
def attributesOf (dict : RadiusDict) (vendor : UInt32) : List (UInt8 × RadiusAttribute) :=
  if vendor = 0 then dict.attrs else (dict.vsa.lookup vendor).getD []

/-- Change `attrs` or, by the index operator, the attributes of a vendor. -/
def alterAttributes (vendor : UInt32)
    (change : List (UInt8 × RadiusAttribute) -> List (UInt8 × RadiusAttribute)) (dict : RadiusDict) :
    RadiusDict :=
  if vendor = 0 then { dict with attrs := change dict.attrs }
  else
    { dict with
      vsa := OrderedMap.alter (fun first second => decide (first ≤ second)) vendor [] change dict.vsa }

/-- Numbers in the order of `int32_t`. -/
def signedBefore (first second : UInt32) : Bool := decide (first.toInt32 ≤ second.toInt32)

/-- A value of an attribute whose name the given one begins with. -/
def attachValue (attr text : Bytes) (number : UInt32) (entry : UInt8 × RadiusAttribute) :
    UInt8 × RadiusAttribute :=
  if entry.2.name.isPrefixOf attr then
    (entry.1, { entry.2 with
      values := OrderedMap.emplace signedBefore number text entry.2.values })
  else entry

end RadiusDict

/-- The dictionary and the local variables of `parseFreeradDict`. -/
structure DictParser where
  dict : RadiusDict := {}
  vendors : Table Bytes UInt32 := ∅
  currentVendor : UInt32 := 0

namespace DictParser

/-- The effect of an ATTRIBUTE line. -/
def addAttribute (parser : DictParser) (name : Bytes) (id : UInt8) : DictParser :=
  { parser with
    dict := parser.dict.alterAttributes parser.currentVendor
      (OrderedMap.emplace (fun first second => decide (first ≤ second)) id { name := name }) }

/-- The effect of a VALUE line. -/
def addValue (parser : DictParser) (attr text : Bytes) (number : UInt32) : DictParser :=
  { parser with
    dict := parser.dict.alterAttributes parser.currentVendor
      (List.map (RadiusDict.attachValue attr text number)) }

/-- The effect of a VENDOR line. -/
def addVendor (parser : DictParser) (name : Bytes) (id : UInt32) : DictParser :=
  { parser with vendors := (Table.emplace name id parser.vendors).1 }

/-- The effect of a BEGIN-VENDOR line. -/
def beginVendor (parser : DictParser) (name : Bytes) : DictParser :=
  { parser with currentVendor := (parser.vendors.lookup name).getD parser.currentVendor }

/-- The effect of an END-VENDOR line. -/
def endVendor (parser : DictParser) : DictParser := { parser with currentVendor := 0 }

/-- The words that some line with an effect contains. -/
def keywords : List Bytes :=
  [ascii "ATTRIBUTE", ascii "VALUE", ascii "VENDOR", ascii "BEGIN-VENDOR", ascii "END-VENDOR"]

/-- The vector `out` of a line. -/
def fieldsOf (leftover : Nat -> Bytes) (line : Bytes) : List Bytes :=
  let words := wordsOf isFieldBlank line
  words ++ (List.range ((splitAtBlanks isFieldBlank line).length - words.length)).map leftover

/-- What one round does with the vector `out`. -/
def parseFields (parser : DictParser) (out : List Bytes) : Option DictParser :=
  if (ascii "ATTRIBUTE").isPrefixOf (out.getD 0 []) then
    if out.length < 4 then some parser
    else (stoi (out.getD 2 [])).map (fun id => parser.addAttribute (out.getD 1 []) (.ofInt id))
  else if (ascii "VALUE").isPrefixOf (out.getD 0 []) then
    if out.length < 4 then some parser
    else (stoi (out.getD 3 [])).map (fun number =>
      parser.addValue (out.getD 1 []) (out.getD 2 []) (.ofInt number))
  else if (ascii "VENDOR").isPrefixOf (out.getD 0 []) then
    if out.length < 3 then some parser
    else (stoi (out.getD 2 [])).map (fun id => parser.addVendor (out.getD 1 []) (.ofInt id))
  else if (ascii "BEGIN-VENDOR").isPrefixOf (out.getD 0 []) then
    if out.length < 2 then some parser else some (parser.beginVendor (out.getD 1 []))
  else if (ascii "END-VENDOR").isPrefixOf (out.getD 0 []) then some parser.endVendor
  else some parser

/-- One round of the loop.  `front` of an empty line reads its terminator. -/
def parseLine (leftover : Nat -> Bytes) (parser : DictParser) (line : Bytes) : Option DictParser :=
  if line.headD 0 = hash then some parser
  else if keywords.all (fun keyword => !decide (keyword <:+: line)) then some parser
  else parser.parseFields (fieldsOf leftover line)

/-- The loop over the lines. -/
def parseLines (leftover : Nat -> Nat -> Bytes) : Nat -> DictParser -> List Bytes -> Option DictParser
  | _, parser, [] => some parser
  | number, parser, line :: rest =>
      (parseLine (leftover number) parser line).bind (fun next =>
        parseLines leftover (number + 1) next rest)

/-- `parseFreeradDict` on the text of a file. -/
def parseFreeradDict (leftover : Nat -> Nat -> Bytes) (parser : DictParser) (text : Bytes) :
    Option DictParser :=
  parseLines leftover 0 { parser with currentVendor := 0 } (linesOf newline text)

end DictParser

end Pppcpd
