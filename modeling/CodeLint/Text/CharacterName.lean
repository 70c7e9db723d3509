import CodeLint.Text.CharacterName.Ancient
import CodeLint.Text.CharacterName.Further
import CodeLint.Text.CharacterName.Pictures
import CodeLint.Text.CharacterName.Scripts
import CodeLint.Text.CharacterName.Signs
import CodeLint.Text.CharacterName.Syllables
import CodeLint.Text.CharacterName.Symbols
import CodeLint.Text.CharacterName.Words
import CodeLint.Text.Ranges

/-!
Characters by name, by Unicode 14. Most names stand in tables, where case does not count. The
names of ideographs hold their code point, and those of Hangul syllables are put together from
three sounds.

An entry of a table gives the code point, if it is not the next one, how many words are kept from
the name before, and the words that follow, the common ones by their letters. A plus stands for the
name before with its number raised by one, an equals sign for the one with its last letter raised,
and a minus for the one with a small letter; a number behind them says how often.
-/

namespace CodeLint.Text

/-! ### Tables -/

structure NamedChar where
  code : Nat
  words : List String

def hexDigit? (c : Char) : Option Nat :=
  if '0' ≤ c ∧ c ≤ '9' then some (c.toNat - 48)
  else if 'A' ≤ c ∧ c ≤ 'F' then some (c.toNat - 55)
  else none

def hexCode? (cs : List Char) : Option Nat :=
  cs.foldl (fun n c => do return 16 * (← n) + (← hexDigit? c)) (some 0)

def raiseNumber (word : String) : String :=
  let digits := (word.toList.reverse.takeWhile Char.isDigit).reverse
  let head := word.toList.take (word.length - digits.length)
  let n := digits.foldl (fun n c => 10 * n + (c.toNat - 48)) 0
  let raised := Nat.toDigits 10 (n + 1)
  String.ofList (head ++ List.replicate (digits.length - raised.length) '0' ++ raised)

def wordTable : Array String := (commonWords.flatMap (·.splitOn " ")).toArray

def fullWord (word : String) : String :=
  let place (c : Char) : Nat := c.toNat - 97
  match word.toList with
  | [a] => if a.isLower then wordTable.getD (place a) word else word
  | [a, b] => if a.isLower then wordTable.getD (26 + 26 * place a + place b) word else word
  | _ => word

def raiseLetter (word : String) : String :=
  match word.toList.reverse with
  | [] => word
  | c :: cs =>
    if c.isDigit then word.push 'A'
    else String.ofList (cs.reverse ++ [Char.ofNat (c.toNat + 1)])

def changeLast (f : String → String) (words : List String) : List String :=
  words.dropLast ++ [f (words.getLastD "")]

def entryWords (before : List String) (entry : List Char) : List String :=
  match entry with
  | '+' :: _ => changeLast raiseNumber before
  | '=' :: _ => changeLast raiseLetter before
  | '-' :: _ => before.map fun w => if w == "CAPITAL" then "SMALL" else w
  | k :: rest =>
    let kept := before.take (k.toNat - 48)
    if rest.isEmpty then kept else kept ++ ((String.ofList rest).splitOn " ").map fullWord
  | [] => before

def NamedChar.next (before : NamedChar) (entry : List Char) : NamedChar :=
  match entry with
  | '@' :: rest =>
    let code := rest.takeWhile (· != ' ')
    ⟨(hexCode? code).getD 0, entryWords before.words (rest.drop (code.length + 1))⟩
  | _ => ⟨before.code + 1, entryWords before.words entry⟩

def findNamed (words : List String) : NamedChar → List String → Option Nat
  | _, [] => none
  | before, entry :: entries =>
    let c := before.next entry.toList
    if c.words == words then some c.code else findNamed words c entries

def tables : List (List String) :=
  [scriptNames, symbolNames, syllableNames, ancientNames, signNames, pictureNames, furtherNames]

def repeatedEntry (entry : String) : List String :=
  match entry.toList with
  | sign :: d :: ds =>
    if sign.isDigit || sign == '@' then [entry]
    else List.replicate ((String.ofList (d :: ds)).toNat?.getD 0) sign.toString
  | _ => [entry]

def fromTables (words : List String) : Option Nat :=
  tables.findSome? fun rows =>
    findNamed words ⟨0, []⟩ ((rows.flatMap (·.splitOn "|")).flatMap repeatedEntry)

/-! ### Names with a code point -/

/-- Families of names that end in the code point, with the ranges they cover. -/
def numberedFamilies : List (String × List (Nat × Nat)) :=
  [("CJK COMPATIBILITY IDEOGRAPH-", [(0xF900, 0xFA6D), (0xFA70, 0xFAD9), (0x2F800, 0x2FA1D)]),
   ("KHITAN SMALL SCRIPT CHARACTER-", [(0x18B00, 0x18CD5)]),
   ("NUSHU CHARACTER-", [(0x1B170, 0x1B2FB)])]

def ideographs : List (Nat × Nat) :=
  [(0x3400, 0x4DBF), (0x4E00, 0x9FFF), (0x20000, 0x2A6DF), (0x2A700, 0x2B738), (0x2B740, 0x2B81D),
   (0x2B820, 0x2CEA1), (0x2CEB0, 0x2EBE0), (0x30000, 0x3134A)]

def numbered? (family name : String) (ranges : List (Nat × Nat)) : Option Nat :=
  let digits := name.toList.drop family.length
  if name.startsWith family && (digits.length == 4 || digits.length == 5) then
    (hexCode? digits).filter (inRanges ranges)
  else none

/-! ### Hangul -/

def leadSounds : List String :=
  ["G", "GG", "N", "D", "DD", "R", "M", "B", "BB", "S", "SS", "", "J", "JJ", "C", "K", "T", "P",
   "H"]

def vowelSounds : List String :=
  ["A", "AE", "YA", "YAE", "EO", "E", "YEO", "YE", "O", "WA", "WAE", "OE", "YO", "U", "WEO", "WE",
   "WI", "YU", "EU", "YI", "I"]

def tailSounds : List String :=
  ["", "G", "GG", "GS", "N", "NJ", "NH", "D", "L", "LG", "LM", "LB", "LS", "LT", "LP", "LH", "M",
   "B", "BS", "S", "SS", "NG", "J", "C", "K", "T", "P", "H"]

def takeSound (sounds : List String) (cs : List Char) : Option (Nat × List Char) :=
  let found := sounds.filter fun s => s.toList.isPrefixOf cs
  match found.mergeSort fun a b => b.length ≤ a.length with
  | s :: _ => some (sounds.idxOf s, cs.drop s.length)
  | [] => none

def hangul? (name : String) : Option Nat := do
  let family := "HANGUL SYLLABLE "
  if !name.startsWith family then none
  else
    let (l, rest) ← takeSound leadSounds (name.toList.drop family.length)
    let (v, rest) ← takeSound vowelSounds rest
    let (t, rest) ← takeSound tailSounds rest
    if rest.isEmpty then some (0xAC00 + (l * 21 + v) * 28 + t) else none

/-! ### All names -/

def codeNamed? (name : String) : Option Nat :=
  let upper := name.map Char.toUpper
  (hangul? name).or <| (numbered? "CJK UNIFIED IDEOGRAPH-" name ideographs).or <|
    (numberedFamilies.findSome? fun (family, ranges) => numbered? family upper ranges).or <|
      fromTables (upper.splitOn " ")

def characterNamed? (name : String) : Option Char := (codeNamed? name).map Char.ofNat

end CodeLint.Text
