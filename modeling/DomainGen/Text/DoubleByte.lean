import DomainGen.Text.DoubleByte.Big
import DomainGen.Text.DoubleByte.Chinese
import DomainGen.Text.DoubleByte.Japanese
import DomainGen.Text.DoubleByte.Korean

/-!
# The encodings of East Asian writing

* `DoubleByte.tables` : the encodings with a byte or two a character;
* `DoubleByte.named?` : the one of a name in lower case.

Those of Windows have the tables of the standards with other characters in some places and further
ones behind. The larger Korean one has every syllable: those that its table lacks fill the bytes
before and beside the table in the order of their code points.
-/

namespace DomainGen.Text.DoubleByte

/-! ## 1. Japanese -/

/-- The narrow letters of Japanese writing, in one byte or after another one. -/
def narrowKana (before : List Nat) : Run := ⟨before, 0xa1, 0xff61, 63⟩

/-- The standard encoding with two rows under a first byte. -/
def shiftJis : DoubleByte where
  name := "shift_jis"
  aliases := ["csshiftjis", "s_jis", "shiftjis", "sjis", "x_mac_japanese"]
  layout := .folded
  lines := numbered japaneseLines
  runs := [narrowKana []]
  stored := [('¥', [0x5c]), ('‾', [0x7e])]
  beyond := .nothing

/-- The characters that users may define, under ten first bytes. -/
def userRuns : List Run :=
  (List.range 10).flatMap fun i =>
    [⟨[0xf0 + i], 0x40, 0xe000 + 188 * i, 63⟩, ⟨[0xf0 + i], 0x80, 0xe000 + 188 * i + 63, 125⟩]

/-- The encoding of Windows with two rows under a first byte. -/
def windowsJapanese : DoubleByte where
  name := "cp932"
  aliases := ["932", "ms932", "ms_kanji", "mskanji"]
  layout := .folded
  lines := replaceLines (numbered japaneseLines) windowsLines
  runs := [⟨[], 0x80, 0x80, 1⟩, ⟨[], 0xa0, 0xf8f0, 1⟩, narrowKana [], ⟨[], 0xfd, 0xf8f1, 3⟩]
    ++ userRuns
  stored := [('¢', [0x81, 0x91]), ('£', [0x81, 0x92]), ('¬', [0x81, 0xca]), ('‖', [0x81, 0x61]),
    ('−', [0x81, 0x7c]), ('〜', [0x81, 0x60])]
  beyond := .nothing

/-- The encoding of the standard by row and column. -/
def eucJapanese : DoubleByte where
  name := "euc_jp"
  aliases := ["eucjp", "u_jis", "ujis"]
  layout := .square
  lines := numbered japaneseLines
  runs := [narrowKana [0x8e]]
  stored := [('¥', [0x5c]), ('‾', [0x7e])]
  beyond := .second (numbered supplementLines)

/-! ## 2. Chinese -/

/-- A text in rows of some length. -/
def rowsOf (length : Nat) : (fuel : Nat) → List Char → List (List Char)
  | 0, _ => []
  | fuel + 1, s => if s.isEmpty then [] else s.take length :: rowsOf length fuel (s.drop length)

/-- The rows of the smaller table as the extended table has them: they stand at the end of its later
    rows. -/
def smallRows : List String :=
  let rows := rowsOf (Layout.columns 0x80) 126 (chineseLines.flatMap String.toList)
  ((rows.drop 32).take 87).map fun row => String.ofList (row.drop 96)

/-- The encoding of the smaller table. -/
def smallChinese : DoubleByte where
  name := "gb2312"
  aliases := ["chinese", "csiso58gb231280", "euc_cn", "euccn", "eucgb2312_cn", "gb2312_1980",
    "gb2312_80", "iso_ir_58", "x_mac_simp_chinese"]
  layout := .square
  lines := replaceLines (numbered smallRows) smallOwnLines
  runs := []
  stored := []
  beyond := .nothing

/-- The encoding of the extended table. -/
def extendedChinese : DoubleByte where
  name := "gbk"
  aliases := ["936", "cp936", "ms936"]
  layout := .wide 0x81 0x80
  lines := numbered chineseLines
  runs := []
  stored := []
  beyond := .nothing

/-- The encoding of all characters that begins with the extended table. -/
def newestChinese : DoubleByte :=
  { extendedChinese with
    name := "gb18030"
    aliases := ["gb18030_2000"]
    runs := newestRuns
    beyond := .quads newestStretches }

/-- The encoding of traditional Chinese writing. -/
def bigChinese : DoubleByte where
  name := "big5"
  aliases := ["big5_tw", "csbig5", "x_mac_trad_chinese"]
  layout := .wide 0xa1 0xa1
  lines := numbered bigLines
  runs := []
  stored := [('／', [0xa2, 0x41]), ('＼', [0xa2, 0x42]), ('十', [0xa4, 0x51]), ('卅', [0xa4, 0xca])]
  beyond := .nothing

/-- The encoding of Windows for traditional Chinese writing. -/
def windowsChinese : DoubleByte :=
  { bigChinese with
    name := "cp950"
    aliases := ["950", "ms950"]
    runs := windowsRuns
    stored := [('═', [0xa2, 0xa4]), ('╞', [0xa2, 0xa5]), ('╡', [0xa2, 0xa7]), ('╪', [0xa2, 0xa6]),
      ('╭', [0xa2, 0x7e]), ('╮', [0xa2, 0xa1]), ('╯', [0xa2, 0xa3]), ('╰', [0xa2, 0xa2]),
      ('十', [0xa4, 0x51]), ('卅', [0xa4, 0xca])] }

/-! ## 3. Korean -/

/-- The encoding of the standard. -/
def eucKorean : DoubleByte where
  name := "euc_kr"
  aliases := ["euckr", "korean", "ks_c_5601", "ks_c_5601_1987", "ks_x_1001", "ksc5601", "ksx1001",
    "x_mac_korean"]
  layout := .square
  lines := numbered koreanLines
  runs := []
  stored := [('\u3164', [0xa4, 0xd4])]
  beyond := .syllables

/-- The numbers of a list that are not in another one; both are in ascending order. -/
def lacking : List Nat → List Nat → List Nat
  | [], _ => []
  | n :: ns, [] => n :: ns
  | n :: ns, m :: ms => if n == m then lacking ns ms else n :: lacking ns (m :: ms)

/-- The syllables that the table lacks, by their code points. -/
def lackingSyllables : List Nat :=
  lacking ((List.range 11172).map (firstSyllable + ·))
    (((koreanLines.flatMap String.toList).map Char.toNat).filter fun n =>
      firstSyllable ≤ n && n < firstSyllable + 11172)

/-- The second bytes before and beside the table after a first byte. -/
def besideTable (a : Nat) : List Nat :=
  List.range' 0x41 26 ++ List.range' 0x61 26 ++ List.range' 0x81 (if a < 0xa1 then 126 else 32)

/-- Those syllables in the bytes before and beside the table. -/
def syllableRuns : List Run :=
  let places := (List.range' 0x81 70).flatMap fun a => (besideTable a).map fun b => (a, b)
  (places.zip lackingSyllables).map fun ((a, b), n) => ⟨[a], b, n, 1⟩

/-- The encoding of Windows for Korean writing. -/
def windowsKorean : DoubleByte :=
  { eucKorean with
    name := "cp949"
    aliases := ["949", "ms949", "uhc"]
    runs := ⟨[0xa4], 0xd4, 0x3164, 1⟩ :: syllableRuns
    beyond := .nothing }

/-- All encodings. -/
def tables : List DoubleByte :=
  [shiftJis, windowsJapanese, eucJapanese, smallChinese, extendedChinese, newestChinese, bigChinese,
    windowsChinese, eucKorean, windowsKorean]

/-- The encoding of a name. Points in a name count as low lines among the other names. -/
def named? (name : String) : Option DoubleByte :=
  let other := String.ofList (name.toList.map fun c => if c == '.' then '_' else c)
  tables.find? fun e => e.name == name || e.aliases.contains other

end DomainGen.Text.DoubleByte
