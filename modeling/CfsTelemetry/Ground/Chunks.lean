import CfsTelemetry.Ground.Stream
import Mathlib.Data.List.TakeWhile

/-!
# The stream and the chunks in which it comes

Frames and text lines of a stream do not depend on the chunks in which it is fed, as long as no
text line is longer than what the stream keeps of an unfinished line. A longer line is taken when
it comes with its newline, and is given up when its newline comes later.
-/
namespace CfsTelemetry.Ground

open Words Lora Scan

/-- An event is a frame or a line. -/
def StreamEvent.isReceived : StreamEvent → Bool
  | .frame _ => true
  | .line _ => true
  | .decodeError _ => false

/-- The frames and lines that the stream makes of what it is fed with. -/
def received (result : Option (List StreamEvent × List UInt8)) : Option (List StreamEvent) :=
  result.map fun made => made.1.filter StreamEvent.isReceived

/-- The frames and lines among events. -/
@[simp] theorem received_some (events : List StreamEvent) (left : List UInt8) :
    received (some (events, left)) = some (events.filter StreamEvent.isReceived) := rfl

/-- The frames and lines of a stream that is fed at once. -/
def receivedOf (stream : List UInt8) : List StreamEvent := (received (drain stream)).getD []

/-- What the loop finds are the frames and lines of a stream. -/
theorem receivedOf_scans {buf left : List UInt8} {events : List StreamEvent}
    (scans : Scans tryParse buf events left) :
    receivedOf buf = events.filter StreamEvent.isReceived := by
  unfold receivedOf
  rw [drain_scans scans]
  rfl

/-- A stream that is fed at once makes its frames and lines. -/
theorem received_feed (stream : List UInt8) :
    received (feed [] stream) = some (receivedOf stream) := by
  have ⟨events, left, scans⟩ := Scans.ends tryParse_progress stream
  unfold feed
  rw [List.nil_append, drain_scans scans, receivedOf_scans scans, received_some]

/-- A stream at whose front nothing is complete has no frames and lines. -/
theorem receivedOf_waits {buf : List UInt8} {event : Option StreamEvent}
    (waits : tryParse buf = some (event, 0)) : receivedOf buf = [] :=
  receivedOf_scans (.stop waits)

/-- The frames and lines of a stream are what is found at its front and then those of the rest. -/
theorem receivedOf_found {buf : List UInt8} {event : Option StreamEvent} {count : Nat}
    (found : tryParse buf = some (event, count)) (taken : count ≠ 0) :
    receivedOf buf =
      event.toList.filter StreamEvent.isReceived ++ receivedOf (buf.drop count) := by
  have ⟨events, left, later⟩ := Scans.ends tryParse_progress (buf.drop count)
  have whole := receivedOf_scans (.turn (.take found taken) later)
  rw [whole, receivedOf_scans later, List.filter_append]

/-- What is given up at the front of a stream is no frame and no line. -/
theorem receivedOf_error {buf : List UInt8} {reason : String} {count : Nat}
    (found : tryParse buf = some (some (.decodeError reason), count)) (taken : count ≠ 0) :
    receivedOf buf = receivedOf (buf.drop count) :=
  receivedOf_found found taken

/-- A line at the front of a stream. -/
theorem receivedOf_line {text : List UInt8} (plain : Plain text)
    (first : ∀ byte ∈ text.head?, TextFirst byte) (rest : List UInt8) :
    receivedOf (text ++ 10 :: rest) = .line (lineText text) :: receivedOf rest := by
  have behind : (text ++ 10 :: rest).drop (text.length + 1) = rest := by simp
  have found := receivedOf_found (tryParse_line plain first rest) (Nat.succ_ne_zero _)
  rw [found, behind]
  rfl

/-- A newline alone is an empty line. -/
theorem receivedOf_newline (rest : List UInt8) :
    receivedOf (10 :: rest) = .line "" :: receivedOf rest := by
  have plain : Plain [] := by simp [Plain]
  exact receivedOf_line plain (by simp) rest

/-- A frame at the front of a stream. -/
theorem receivedOf_frame {frame : List UInt8} {decoded : Dl2Frame} (whole : IsDl2 frame)
    (reads : decodeDl2 frame = some decoded) (rest : List UInt8) :
    receivedOf (frame ++ rest) = .frame decoded :: receivedOf rest := by
  have ⟨events, left, later⟩ := Scans.ends tryParse_progress rest
  rw [receivedOf_scans (scans_frame whole reads later), receivedOf_scans later]
  rfl

/-- Plain bytes alone make no frame and no line. -/
theorem receivedOf_plain (bytes : List UInt8) (plain : Plain bytes) : receivedOf bytes = [] := by
  induction bytes with
  | nil => exact receivedOf_waits rfl
  | cons byte rest previous =>
    have ⟨front, back⟩ := plain_append.mp (show Plain ([byte] ++ rest) from plain)
    by_cases first : TextFirst byte
    · have parsed := tryParse_pending plain first
      by_cases long : (byte :: rest).length > maxV1Line
      · rw [if_pos long] at parsed
        rw [receivedOf_error parsed (Nat.succ_ne_zero _), List.drop_length]
        exact receivedOf_waits rfl
      · rw [if_neg long] at parsed
        exact receivedOf_waits parsed
    · have ⟨reason, parsed⟩ := tryParse_stray (front byte List.mem_cons_self).2 first rest
      rw [receivedOf_error parsed Nat.one_ne_zero]
      exact previous back

/-- Plain bytes in front of a frame make no frame and no line. -/
theorem receivedOf_beforeMagic (text rest : List UInt8) (plain : Plain text) :
    receivedOf (text ++ dl2Magic :: rest) = receivedOf (dl2Magic :: rest) := by
  induction text with
  | nil => rfl
  | cons byte text previous =>
    have ⟨front, back⟩ := plain_append.mp (show Plain ([byte] ++ text) from plain)
    by_cases first : TextFirst byte
    · have ⟨reason, parsed⟩ := tryParse_beforeMagic plain first rest
      rw [receivedOf_error parsed (Nat.succ_ne_zero _), List.drop_left]
    · have ⟨reason, parsed⟩ := tryParse_stray (front byte List.mem_cons_self).2 first
        (text ++ dl2Magic :: rest)
      have error := receivedOf_error parsed Nat.one_ne_zero
      rw [List.cons_append, error]
      exact previous back

/-- A byte is read as a carriage return only if it is one. -/
theorem asciiChar_return (byte : UInt8) : asciiChar byte = '\r' ↔ byte = 13 := by
  have all : ∀ code : BitVec 8, asciiChar ⟨code⟩ = '\r' ↔ (⟨code⟩ : UInt8) = 13 := by
    decide +kernel
  exact all byte.toBitVec

/-- Nothing is left of a line exactly if it is carriage returns only. -/
theorem stripReturns_eq_nil (chars : List Char) :
    stripReturns chars = [] ↔ ∀ char ∈ chars, char = '\r' := by
  unfold stripReturns
  rw [List.reverse_eq_nil_iff, List.dropWhile_eq_nil_iff]
  constructor
  · intro back
    have nothing : chars.dropWhile (· == '\r') = [] := by
      by_contra more
      have stops := List.head_dropWhile_not (· == '\r') more
      have head := back _ (List.mem_reverse.mpr (List.head_mem more))
      rw [head] at stops
      exact Bool.noConfusion stops
    intro char held
    simpa using List.dropWhile_eq_nil_iff.mp nothing char held
  · intro returns char held
    have inside := (List.dropWhile_sublist _).subset (List.mem_reverse.mp held)
    simpa using returns char inside

/-- The text of a line is empty exactly if the line is carriage returns only. -/
theorem lineText_eq_empty (text : List UInt8) :
    lineText text = "" ↔ ∀ byte ∈ text, byte = 13 := by
  have listed : lineText text = "" ↔ stripReturns (text.map asciiChar) = [] := by
    unfold lineText
    rw [← String.toList_inj, String.toList_ofList]
    rfl
  rw [listed, stripReturns_eq_nil, List.forall_mem_map]
  simp only [asciiChar_return]

/-! ## Long lines -/

/-- The places of a stream that are outside its frames, when frames are taken from the left. A
place is the part of the stream from there on. -/
inductive Outside : List UInt8 → List UInt8 → Prop
  | here {stream : List UInt8} : Outside stream stream
  | byte {first : UInt8} {rest place : List UInt8} (no : ¬ StartsFrame (first :: rest))
      (later : Outside rest place) : Outside (first :: rest) place
  | frame {frame rest place : List UInt8} (whole : IsDl2 frame) (later : Outside rest place) :
      Outside (frame ++ rest) place

/-- Every text line outside the frames of a stream fits what is kept of an unfinished line, or is
carriage returns only. A longer line is given up if its newline has not come yet, and is taken whole
if it has. -/
def ShortLines (stream : List UInt8) : Prop :=
  ∀ text rest, Outside stream (text ++ 10 :: rest) → Plain text →
    (∀ byte ∈ text.head?, TextFirst byte) → maxV1Line < text.length → ∀ byte ∈ text, byte = 13

/-- A place is what remains behind some bytes of the stream. -/
theorem Outside.suffix {stream place : List UInt8} (outside : Outside stream place) :
    ∃ front, stream = front ++ place := by
  induction outside with
  | here => exact ⟨[], rfl⟩
  | @byte first rest place no later previous =>
    have ⟨front, split⟩ := previous
    exact ⟨first :: front, by rw [split]; rfl⟩
  | @frame frame rest place whole later previous =>
    have ⟨front, split⟩ := previous
    exact ⟨frame ++ front, by rw [split, List.append_assoc]⟩

/-- Bytes that are not the magic byte are outside the frames. -/
theorem Outside.skip {bytes rest place : List UInt8} (free : ∀ byte ∈ bytes, byte ≠ dl2Magic)
    (later : Outside rest place) : Outside (bytes ++ rest) place := by
  induction bytes with
  | nil => exact later
  | cons first bytes previous =>
    have no := not_startsFrame (free first List.mem_cons_self) (bytes ++ rest)
    exact .byte no (previous fun byte held => free byte (List.mem_cons_of_mem _ held))

/-- A place behind a byte that begins no frame. -/
theorem Outside.tail {first : UInt8} {rest place : List UInt8}
    (outside : Outside (first :: rest) place) (no : ¬ StartsFrame (first :: rest))
    (elsewhere : first :: rest ≠ place) : Outside rest place := by
  generalize held : first :: rest = stream at outside no elsewhere
  cases outside with
  | here => exact absurd rfl elsewhere
  | byte _ later =>
    cases held
    exact later
  | frame whole _ => exact absurd ⟨_, _, rfl, whole⟩ no

/-- A place behind a frame. -/
theorem Outside.behind {frame rest place : List UInt8} (outside : Outside (frame ++ rest) place)
    (whole : IsDl2 frame) (elsewhere : frame ++ rest ≠ place) : Outside rest place := by
  generalize held : frame ++ rest = stream at outside elsewhere
  cases outside with
  | here => exact absurd rfl elsewhere
  | byte no _ => exact absurd ⟨_, _, held.symm, whole⟩ no
  | frame other later =>
    have ⟨_, same⟩ := whole.unique other held
    rw [same]
    exact later

/-- A place among bytes that are not the magic byte, or behind them. -/
theorem Outside.after {bytes rest place : List UInt8} (outside : Outside (bytes ++ rest) place)
    (free : ∀ byte ∈ bytes, byte ≠ dl2Magic) :
    (∃ front back, bytes = front ++ back ∧ place = back ++ rest) ∨ Outside rest place := by
  induction bytes with
  | nil => exact .inr outside
  | cons first bytes previous =>
    by_cases elsewhere : first :: (bytes ++ rest) = place
    · exact .inl ⟨[], first :: bytes, rfl, elsewhere.symm⟩
    · have no := not_startsFrame (free first List.mem_cons_self) (bytes ++ rest)
      have later := outside.tail no elsewhere
      rcases previous later (fun byte held => free byte (List.mem_cons_of_mem _ held)) with
        ⟨front, back, split, there⟩ | behind
      · exact .inl ⟨first :: front, back, by rw [split]; rfl, there⟩
      · exact .inr behind

/-- The lines are short in a part of a stream whose places are places of the stream. -/
theorem ShortLines.of_places {stream part : List UInt8} (short : ShortLines stream)
    (places : ∀ place, Outside part place → Outside stream place) : ShortLines part :=
  fun text rest outside => short text rest (places _ outside)

/-- The first newline or magic byte of a stream, and what is in front of it, are determined. -/
theorem Plain.unique {text other rest rest' : List UInt8} {byte byte' : UInt8} (plain : Plain text)
    (plain' : Plain other) (marks : byte = 10 ∨ byte = dl2Magic)
    (marks' : byte' = 10 ∨ byte' = dl2Magic)
    (same : text ++ byte :: rest = other ++ byte' :: rest') :
    text = other ∧ byte = byte' ∧ rest = rest' := by
  have notIn {mark : UInt8} {bytes : List UInt8} (plain : Plain bytes)
      (marks : mark = 10 ∨ mark = dl2Magic) : mark ∉ bytes := by
    intro held
    have ⟨newline, magic⟩ := plain mark held
    exact marks.elim newline magic
  rcases List.append_eq_append_iff.mp same with ⟨middle, split, behind⟩ | ⟨middle, split, behind⟩
  · cases middle with
    | nil =>
      rw [List.nil_append, List.cons.injEq] at behind
      rw [List.append_nil] at split
      exact ⟨split.symm, behind.1, behind.2⟩
    | cons first middle =>
      rw [List.cons_append, List.cons.injEq] at behind
      have inside : byte ∈ other := by simp [split, behind.1]
      exact absurd inside (notIn plain' marks)
  · cases middle with
    | nil =>
      rw [List.nil_append, List.cons.injEq] at behind
      rw [List.append_nil] at split
      exact ⟨split, behind.1.symm, behind.2.symm⟩
    | cons first middle =>
      rw [List.cons_append, List.cons.injEq] at behind
      have inside : byte' ∈ text := by simp [split, behind.1]
      exact absurd inside (notIn plain marks')

/-- A line too long to be kept makes the same frames and lines when what was kept of it is given
up, if it is carriage returns only. -/
theorem receivedOf_overflow {text : List UInt8} (plain : Plain text)
    (first : ∀ byte ∈ text.head?, TextFirst byte) (long : maxV1Line < text.length)
    (later : List UInt8) (short : ShortLines (text ++ later)) :
    receivedOf (text ++ later) = receivedOf later := by
  have filled : text ≠ [] := by
    intro empty
    simp [empty] at long
  have head (rest : List UInt8) : (text ++ rest).head? = text.head? := by
    rw [List.head?_append_of_ne_nil _ filled]
  rcases plain_split later with last | ⟨behind, rest, plain', split | split⟩
  · rw [receivedOf_plain _ last, receivedOf_plain _ (plain_append.mpr ⟨plain, last⟩)]
  · -- The line goes on with the bytes that come later, and all of it is carriage returns.
    have whole := plain_append.mpr ⟨plain, plain'⟩
    have front : ∀ byte ∈ (text ++ behind).head?, TextFirst byte := by
      rw [head]
      exact first
    have joined : text ++ later = text ++ behind ++ 10 :: rest := by
      rw [split, List.append_assoc]
    have longer : maxV1Line < (text ++ behind).length := by
      rw [List.length_append]
      omega
    have returns : ∀ byte ∈ text ++ behind, byte = 13 :=
      short _ rest (joined ▸ .here) whole front longer
    have returns' : ∀ byte ∈ behind, byte = 13 :=
      fun byte held => returns byte (List.mem_append_right _ held)
    have front' : ∀ byte ∈ behind.head?, TextFirst byte := by
      intro byte held
      rw [returns' byte (List.mem_of_mem_head? held)]
      decide
    rw [joined, split, receivedOf_line whole front, receivedOf_line plain' front',
      (lineText_eq_empty _).mpr returns, (lineText_eq_empty _).mpr returns']
  · have whole := plain_append.mpr ⟨plain, plain'⟩
    rw [split, receivedOf_beforeMagic _ _ plain', ← List.append_assoc,
      receivedOf_beforeMagic _ _ whole]

/-- What a turn of the loop finds stays in front of what comes later, except for text that is too
long to be kept. -/
theorem receivedOf_turn {buf : List UInt8} {event : Option StreamEvent} {count : Nat}
    (parsed : tryParse buf = some (event, count)) (taken : count ≠ 0) (later : List UInt8)
    (overflow : Plain buf → (∀ byte ∈ buf.head?, TextFirst byte) → maxV1Line < buf.length →
      receivedOf (buf ++ later) = receivedOf later) :
    receivedOf (buf ++ later) =
      event.toList.filter StreamEvent.isReceived ++ receivedOf (buf.drop count ++ later) := by
  cases found_of_tryParse parsed with
  | empty | unfinished | waiting => exact absurd rfl taken
  | frame whole reads =>
    rw [List.drop_left, List.append_assoc, receivedOf_frame whole reads]
    rfl
  | @rejected rest _ settled no =>
    have ⟨_, again⟩ := tryParse_rejected (settled.append later) (settled.no_frame no later)
    exact receivedOf_error again Nat.one_ne_zero
  | @stray byte rest _ magic stray =>
    have ⟨_, again⟩ := tryParse_stray magic stray (rest ++ later)
    exact receivedOf_error again Nat.one_ne_zero
  | @line text rest plain first =>
    have behind : (text ++ 10 :: rest).drop (text.length + 1) = rest := by simp
    rw [behind, List.append_assoc, List.cons_append, receivedOf_line plain first]
    rfl
  | @beforeMagic byte text rest _ plain first =>
    rw [List.drop_left, List.append_assoc]
    exact receivedOf_beforeMagic (byte :: text) (rest ++ later) plain
  | overflow plain first long =>
    rw [List.drop_length]
    exact overflow plain (by simpa using first) long

/-- Frames and lines of a stream with short lines pass every turn of the loop. -/
theorem receivedOf_passes :
    Passes tryParse StreamEvent.isReceived ShortLines receivedOf := by
  constructor
  · rintro buf _ _ ⟨parsed, taken⟩ later short
    refine short.of_places fun place outside => ?_
    cases found_of_tryParse parsed with
    | empty | unfinished | waiting => exact absurd rfl taken
    | frame whole _ =>
      rw [List.drop_left] at outside
      rw [List.append_assoc]
      exact .frame whole outside
    | rejected settled no => exact .byte (settled.no_frame no later) outside
    | stray magic _ => exact .byte (not_startsFrame magic _) outside
    | @line text rest plain _ =>
      have behind : (text ++ 10 :: rest).drop (text.length + 1) = rest := by simp
      have joined : text ++ 10 :: rest ++ later = (text ++ [10]) ++ (rest ++ later) := by simp
      rw [behind] at outside
      rw [joined]
      exact outside.skip plain.line_ne_magic
    | beforeMagic plain _ =>
      rw [List.drop_left] at outside
      rw [List.append_assoc]
      exact outside.skip fun byte held => (plain byte held).2
    | overflow plain _ _ =>
      rw [List.drop_length] at outside
      exact outside.skip fun byte held => (plain byte held).2
  · rintro buf _ _ ⟨parsed, taken⟩ later short
    exact receivedOf_turn parsed taken later fun plain first long =>
      receivedOf_overflow plain first long later short

/-- A place at which text begins is not where another byte is. -/
theorem ne_place {front : UInt8} {tail text rest : List UInt8} (filled : text ≠ [])
    (differs : ∀ head ∈ text.head?, front ≠ head) : front :: tail ≠ text ++ 10 :: rest := by
  intro same
  cases text with
  | nil => exact filled rfl
  | cons head text =>
    rw [List.cons_append, List.cons.injEq] at same
    exact differs head rfl same.1

/-- A place at which a text line begins that is behind the front of some text is behind all of
it, or ends with the same newline. -/
theorem Outside.behind_text {line behind text rest : List UInt8} {mark : UInt8}
    (outside : Outside (line ++ mark :: behind) (text ++ 10 :: rest)) (plain : Plain text)
    (plain' : Plain line) (marks : mark = 10 ∨ mark = dl2Magic) :
    mark = 10 ∧ rest = behind ∨ Outside (mark :: behind) (text ++ 10 :: rest) := by
  rcases outside.after fun byte held => (plain' byte held).2 with
    ⟨before, back, parts, there⟩ | later
  · have back' := (plain_append.mp (parts ▸ plain')).2
    have ⟨_, ending, same⟩ := plain.unique back' (.inl rfl) marks there
    exact .inl ⟨ending.symm, same⟩
  · exact .inr later

/-- A place at which a text line begins that is behind the front of the buffer is behind what a
look at the buffer takes, unless the buffer is that text. -/
theorem Outside.next {buf text rest : List UInt8} {event : Option StreamEvent} {count : Nat}
    (outside : Outside (buf ++ 10 :: rest) (text ++ 10 :: rest)) (plain : Plain text)
    (first : ∀ byte ∈ text.head?, TextFirst byte) (long : maxV1Line < text.length)
    (found : Found buf event count)
    (other : ¬ (Plain buf ∧ ∀ byte ∈ buf.head?, TextFirst byte)) :
    count ≠ 0 ∧ Outside (buf.drop count ++ 10 :: rest) (text ++ 10 :: rest) := by
  have ⟨front, split⟩ := outside.suffix
  have inside : text.length ≤ buf.length := by
    have lengths := congrArg List.length split
    simp only [List.length_append, List.length_cons] at lengths
    omega
  unfold maxV1Line at long
  have filled : text ≠ [] := by
    rintro rfl
    exact Nat.not_lt_zero _ long
  have notMagic : ∀ head ∈ text.head?, dl2Magic ≠ head := by
    intro head held same
    have textual := first head held
    rw [← same] at textual
    revert textual
    decide
  have notEnding : ∀ head ∈ text.head?, (10 : UInt8) ≠ head := by
    intro head held
    exact (plain head (List.mem_of_mem_head? held)).1.symm
  cases found with
  | empty =>
    rw [List.length_nil] at inside
    omega
  | @frame frame rest' _ whole _ =>
    have bounds := whole.bounds
    have ⟨stated, tail, start⟩ := whole.shape
    have apart : frame ++ (rest' ++ 10 :: rest) ≠ text ++ 10 :: rest := by
      rw [start]
      exact ne_place filled notMagic
    rw [List.append_assoc] at outside
    rw [List.drop_left]
    exact ⟨by omega, outside.behind whole apart⟩
  | rejected settled no =>
    exact ⟨Nat.one_ne_zero, outside.tail (settled.no_frame no _) (ne_place filled notMagic)⟩
  | unfinished short => exact absurd (Settled.of_length (by omega)) short
  | @stray byte _ _ magic stray =>
    have differs : ∀ head ∈ text.head?, byte ≠ head := by
      rintro head held rfl
      exact stray (first byte held)
    exact ⟨Nat.one_ne_zero, outside.tail (not_startsFrame magic _) (ne_place filled differs)⟩
  | @line line rest' plain' _ =>
    have gone : (line ++ 10 :: rest').drop (line.length + 1) = rest' := by simp
    rw [List.append_assoc, List.cons_append] at outside
    rw [gone]
    refine ⟨Nat.succ_ne_zero _, ?_⟩
    rcases outside.behind_text plain plain' (.inl rfl) with ⟨_, same⟩ | later
    · -- Behind the newline of the line in front there are more bytes than behind its own.
      have lengths := congrArg List.length same
      simp only [List.length_append, List.length_cons] at lengths
      omega
    · exact later.tail (not_startsFrame (by decide) _) (ne_place filled notEnding)
  | beforeMagic plain' _ =>
    rw [List.append_assoc] at outside
    rw [List.drop_left]
    refine ⟨Nat.succ_ne_zero _, ?_⟩
    rcases outside.behind_text plain plain' (.inr rfl) with ⟨marks, _⟩ | later
    · exact absurd marks (by decide)
    · exact later
  | overflow plain' first' _ => exact absurd ⟨plain', by simpa using first'⟩ other
  | waiting plain' first' _ => exact absurd ⟨plain', by simpa using first'⟩ other

/-- A line too long to be kept is given up as a whole when its newline has not come. -/
theorem scans_overflow {text : List UInt8} (plain : Plain text)
    (first : ∀ byte ∈ text.head?, TextFirst byte) (long : maxV1Line < text.length) :
    Scans tryParse text [.decodeError "v1 line overflow"] [] := by
  have found : tryParse text = some (some (.decodeError "v1 line overflow"), text.length) := by
    cases text with
    | nil => exact absurd long (Nat.not_lt_zero _)
    | cons head tail => rw [tryParse_pending plain (first head rfl), if_pos long]
  have nothing : tryParse [] = some (none, 0) := rfl
  have turn := Turn.take found (by omega)
  rw [List.drop_length] at turn
  exact .turn turn (.stop nothing)

/-- A stream with a long line does not make the same of it when it is cut in front of the newline
of that line. -/
theorem long_line_lost {text rest : List UInt8} (plain : Plain text)
    (first : ∀ byte ∈ text.head?, TextFirst byte) (long : maxV1Line < text.length)
    {char : UInt8} (inText : char ∈ text) (notReturn : char ≠ 13) (buf : List UInt8)
    (outside : Outside (buf ++ 10 :: rest) (text ++ 10 :: rest)) :
    ∃ events, Scans tryParse buf events [] ∧
      events.filter StreamEvent.isReceived ++ receivedOf (10 :: rest) ≠
        receivedOf (buf ++ 10 :: rest) := by
  by_cases whole : Plain buf ∧ ∀ byte ∈ buf.head?, TextFirst byte
  · have ⟨plain', first'⟩ := whole
    have ⟨front, split⟩ := outside.suffix
    have same : buf = front ++ text := by
      rw [← List.append_assoc] at split
      exact List.append_cancel_right split
    have longer : maxV1Line < buf.length := by
      rw [same, List.length_append]
      omega
    have shown : lineText buf ≠ "" := by
      intro empty
      have inside : char ∈ buf := by
        rw [same]
        exact List.mem_append_right _ inText
      exact notReturn ((lineText_eq_empty buf).mp empty char inside)
    refine ⟨_, scans_overflow plain' first' longer, ?_⟩
    rw [receivedOf_line plain' first', receivedOf_newline]
    intro alike
    have lines : StreamEvent.line "" = .line (lineText buf) := (List.cons.inj alike).1
    exact shown (StreamEvent.line.inj lines).symm
  · have ⟨event, count, parsed, found⟩ := tryParse_found buf
    have ⟨taken, next⟩ := outside.next plain first long found whole
    have fewer := (Turn.take parsed taken).shorter tryParse_progress
    have ⟨events, scans, differ⟩ := long_line_lost plain first long inText notReturn _ next
    refine ⟨_, .turn (.take parsed taken) scans, ?_⟩
    rw [receivedOf_turn parsed taken _ fun plain' first' _ => absurd ⟨plain', first'⟩ whole,
      List.filter_append, List.append_assoc]
    exact fun same => differ (List.append_cancel_left same)
termination_by buf.length

/-- Frames and lines of chunks are those of the stream fed at once, however it is cut, if its
lines are short. -/
theorem received_chunks {stream : List UInt8} (short : ShortLines stream)
    {chunks : List (List UInt8)} (cut : chunks.flatten = stream) :
    ∃ events left, feedAll [] chunks = some (events, left) ∧
      events.filter StreamEvent.isReceived = receivedOf stream := by
  have ⟨events, left, feeds⟩ := Feeds.ends tryParse_progress [] chunks
  have holds : ShortLines ([] ++ chunks.flatten) := by
    rw [cut]
    exact short
  have split := receivedOf_passes.feeds feeds holds
  have ⟨_, waits⟩ := feeds.waits ⟨none, rfl⟩
  rw [receivedOf_waits waits, List.append_nil, List.nil_append, cut] at split
  exact ⟨events, left, feedAll_eq_some.mpr feeds, split.symm⟩

/-- A stream makes the same frames and lines however it is cut into chunks, exactly if its lines are
short. A line that is too long is given up only as long as its newline is missing. -/
theorem chunks_alike_iff (stream : List UInt8) :
    (∀ chunks : List (List UInt8), chunks.flatten = stream →
      received (feedAll [] chunks) = received (feed [] stream)) ↔ ShortLines stream := by
  rw [received_feed]
  constructor
  · intro alike text rest outside plain first long byte inText
    by_contra notReturn
    have ⟨front, split⟩ := outside.suffix
    -- The stream is cut in front of the newline of the line.
    have joined : stream = front ++ text ++ 10 :: rest := by rw [split, List.append_assoc]
    rw [joined] at outside
    have ⟨events, scans, differ⟩ :=
      long_line_lost plain first long inText notReturn (front ++ text) outside
    have ⟨later, left, second⟩ := Scans.ends tryParse_progress (10 :: rest)
    have feeds : Feeds tryParse [] [front ++ text, 10 :: rest] (events ++ (later ++ [])) left :=
      .chunk scans (.chunk second .done)
    have cut := alike [front ++ text, 10 :: rest] (by simp [joined])
    rw [feedAll_eq_some.mpr feeds, joined, received_some, List.append_nil, List.filter_append]
      at cut
    rw [receivedOf_scans second] at differ
    exact differ (Option.some.inj cut)
  · intro short chunks cut
    have ⟨events, left, fed, same⟩ := received_chunks short cut
    rw [fed, received_some, same]

/-- A line of 257 bytes is given up when its newline comes in a chunk of its own, which is then an
empty line. When it comes with its newline it is taken. -/
theorem long_line_cut :
    received (feedAll [] [List.replicate 257 65, [10]]) = some [.line ""] ∧
      received (feed [] (List.replicate 257 65 ++ [10])) =
        some [.line (String.ofList (List.replicate 257 'A'))] ∧
      String.ofList (List.replicate 257 'A') ≠ "" := by
  have plain : Plain (List.replicate 257 65) := by
    intro byte held
    rw [List.eq_of_mem_replicate held]
    decide
  have first : ∀ byte ∈ (List.replicate 257 (65 : UInt8)).head?, TextFirst byte := by
    intro byte held
    rw [List.eq_of_mem_replicate (List.mem_of_mem_head? held)]
    decide
  have text : lineText (List.replicate 257 65) = String.ofList (List.replicate 257 'A') := by
    decide +kernel
  have ⟨later, left, second⟩ := Scans.ends tryParse_progress [10]
  have lines := receivedOf_scans second
  have nothing : receivedOf [] = [] := receivedOf_waits rfl
  rw [receivedOf_newline, nothing] at lines
  have long : maxV1Line < (List.replicate 257 (65 : UInt8)).length := by
    rw [List.length_replicate]
    decide
  have lost := scans_overflow plain first long
  have feeds : Feeds tryParse [] [List.replicate 257 65, [10]]
      ([.decodeError "v1 line overflow"] ++ (later ++ [])) left :=
    .chunk lost (.chunk second .done)
  refine ⟨?_, ?_, by decide +kernel⟩
  · rw [feedAll_eq_some.mpr feeds, received_some, List.append_nil, List.filter_append, ← lines]
    rfl
  · rw [received_feed, receivedOf_line plain first, nothing, text]

end CfsTelemetry.Ground
