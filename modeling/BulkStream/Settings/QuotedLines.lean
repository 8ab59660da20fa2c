import BulkStream.Bytes
import BulkStream.Text.Blank

/-!
A text of settings cut into lines. A line goes on over its end while a quote is open. A hash behind a
blank starts a comment, and so does one that comes first on a line.
-/
namespace BulkStream.Settings

open Text

inductive Mark
  | plain
  /-- A blank came before. -/
  | blank
  | escape
  /-- Between double quotes. -/
  | weak
  | weakEscape
  /-- Between single quotes. -/
  | strong
  | strongEscape
deriving DecidableEq, Repr

def Mark.afterOpen (c : Char) : Mark :=
  if c = '\\' then .escape
  else if c = '"' then .weak
  else if c = '\'' then .strong
  else .plain

/-- The mark after a character. Of several blanks, every other one counts. -/
def Mark.next (c : Char) : Mark → Mark
  | .plain => if isBlank c && c ≠ '\n' && c ≠ '\r' then .blank else afterOpen c
  | .blank => afterOpen c
  | .escape => .plain
  | .weak => if c = '\\' then .weakEscape else if c = '"' then .plain else .weak
  | .weakEscape => .weak
  | .strong => if c = '\\' then .strongEscape else if c = '\'' then .plain else .strong
  | .strongEscape => .strong

/-- Characters up to a comment, and the mark behind the last one if there is no comment. -/
def scanLine : Mark → List Char → List Char × Option Mark
  | mark, [] => ([], some mark)
  | mark, c :: cs =>
      if mark = .blank ∧ c = '#' then ([], none)
      else
        let (kept, last) := scanLine (mark.next c) cs
        (c :: kept, last)

/-- A line without the characters that end it. -/
def dropLineEnd (line : List Char) : List Char :=
  match line.reverse with
  | '\n' :: '\r' :: cs => cs.reverse
  | '\n' :: cs => cs.reverse
  | _ => line

/-- Bytes up to and with the next line feed, and the bytes behind it. -/
def takeLine : Bytes → Bytes × Bytes
  | [] => ([], [])
  | b :: bytes =>
      if b = 0x0a then ([b], bytes)
      else
        let (line, rest) := takeLine bytes
        (b :: line, rest)

theorem length_takeLine (bytes : Bytes) : (takeLine bytes).2.length ≤ bytes.length := by
  induction bytes with
  | nil => simp [takeLine]
  | cons b bytes ih =>
      simp only [takeLine]
      split
      · simp
      · simp only [List.length_cons]
        omega

theorem length_takeLine_lt {bytes : Bytes} (h : bytes ≠ []) :
    (takeLine bytes).2.length < bytes.length := by
  cases bytes with
  | nil => contradiction
  | cons b bytes =>
      have := length_takeLine bytes
      simp only [takeLine]
      split
      · simp
      · simp only [List.length_cons]
        omega

/-- Lines with what ends them. One that is no UTF-8 text has no characters. -/
def rawLines (bytes : Bytes) : List (Option (List Char)) :=
  if bytes = [] then []
  else
    (String.fromUTF8? ⟨(takeLine bytes).1.toArray⟩).map String.toList :: rawLines (takeLine bytes).2
termination_by bytes.length
decreasing_by exact length_takeLine_lt ‹_›

/-- Lines joined over open quotes, where `held` has been read of the current one, with the latest
character first. A line that goes on is no comment, since it has begun with something else. Reading
ends with nothing where a line is no text, or is still open at the end. -/
def joinLines : Mark → (held : List Char) → List (Option (List Char)) → List (Option (List Char))
  | .plain, _, [] => []
  | _, _, [] => [none]
  | _, _, none :: _ => [none]
  | mark, held, some line :: lines =>
      if held = [] ∧ (line.dropWhile isBlank).head? = some '#' then
        some [] :: joinLines .plain [] lines
      else
        match scanLine mark line with
        | (kept, none) => some (held.reverse ++ kept) :: joinLines .plain [] lines
        | (_, some .plain) =>
            some (dropLineEnd (held.reverse ++ line)) :: joinLines .plain [] lines
        | (_, some mark) => joinLines mark (line.reverse ++ held) lines

/-- Bytes without the mark that may stand before UTF-8 text. -/
def dropByteOrderMark : Bytes → Bytes
  | 0xef :: 0xbb :: 0xbf :: bytes => bytes
  | bytes => bytes

/-- The lines of a text. The last is missing if the text cannot be read to its end. -/
def quotedLines (bytes : Bytes) : List (Option (List Char)) :=
  joinLines .plain [] (rawLines (dropByteOrderMark bytes))

end BulkStream.Settings
