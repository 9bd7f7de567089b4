import CfsTelemetry.Ground.Stream
import Mathlib.Data.List.Pairwise

/-!
# Finding frames again behind garbage

Frames come with arbitrary bytes before, between and after them. The stream finds each of them
that has enough bytes behind it, unless it took bytes for a frame that reach into that frame. Such
bytes begin in the garbage, or inside another frame that was lost in the same way.
-/
namespace CfsTelemetry.Ground

open Words Lora Scan

/-- A frame that is sent, and the garbage in front of it. -/
structure Sent where
  garbage : List UInt8
  frame : List UInt8
  whole : IsDl2 frame

/-- The bytes of the frames with the garbage in front of and behind them. -/
def onAir (sent : List Sent) (last : List UInt8) : List UInt8 :=
  sent.flatMap (fun one => one.garbage ++ one.frame) ++ last

/-- A frame and where it begins in a stream. -/
structure Place where
  start : Nat
  frame : List UInt8
  deriving DecidableEq

/-- Where a frame ends in a stream. -/
def Place.stop (place : Place) : Nat := place.start + place.frame.length

/-- The places of the frames that are sent behind so many bytes. -/
def places (offset : Nat) : List Sent → List Place
  | [] => []
  | one :: rest =>
    ⟨offset + one.garbage.length, one.frame⟩ ::
      places (offset + one.garbage.length + one.frame.length) rest

/-- The bytes of a stream from a position on begin with a frame. -/
def FrameAt (stream : List UInt8) (start : Nat) (frame : List UInt8) : Prop :=
  IsDl2 frame ∧ ∃ rest, stream.drop start = frame ++ rest

/-- A position and as many bytes as a frame has reach into a place. -/
def Overlaps (start : Nat) (frame : List UInt8) (place : Place) : Prop :=
  start < place.stop ∧ place.start < start + frame.length

/-- A range of the stream that is itself a frame reaches into the place of a frame that was sent.
The range begins in the garbage, or inside the place of another frame into which such a range
reaches. -/
inductive Shadowed (stream : List UInt8) (places : List Place) : Place → Prop
  | garbage {start : Nat} {frame : List UInt8} {place : Place}
      (there : FrameAt stream start frame)
      (outside : ∀ other ∈ places, ¬ (other.start ≤ start ∧ start < other.stop))
      (among : place ∈ places) (overlaps : Overlaps start frame place) :
      Shadowed stream places place
  | inside {start : Nat} {frame : List UInt8} {other place : Place}
      (there : FrameAt stream start frame) (shadowed : Shadowed stream places other)
      (inside : other.start < start ∧ start < other.stop)
      (among : place ∈ places) (overlaps : Overlaps start frame place) :
      Shadowed stream places place

/-- Where frames are shadowed, a frame that begins in the garbage reaches into one of them. -/
theorem Shadowed.begins {stream : List UInt8} {places : List Place} {place : Place}
    (shadowed : Shadowed stream places place) :
    ∃ start frame, FrameAt stream start frame ∧
      (∀ other ∈ places, ¬ (other.start ≤ start ∧ start < other.stop)) ∧
      ∃ other ∈ places, Overlaps start frame other := by
  induction shadowed with
  | garbage there outside among overlaps =>
    exact ⟨_, _, there, outside, _, among, overlaps⟩
  | inside _ _ _ _ _ previous => exact previous

/-- The places are those of frames of the stream, one after another. -/
structure Laid (stream : List UInt8) (places : List Place) : Prop where
  there : ∀ place ∈ places, FrameAt stream place.start place.frame
  apart : places.Pairwise fun first second => first.stop ≤ second.start

/-- The places of frames are behind the bytes in front of all of them. -/
theorem places_behind (sent : List Sent) (offset : Nat) :
    ∀ place ∈ places offset sent, offset ≤ place.start := by
  induction sent generalizing offset with
  | nil =>
    intro place held
    cases held
  | cons one rest previous =>
    intro place held
    rcases List.mem_cons.mp held with same | later
    · rw [same]
      exact Nat.le_add_right _ _
    · have behind := previous _ place later
      omega

/-- The frames that are sent are in the stream, one after another. -/
theorem laid_places (sent : List Sent) (front last : List UInt8) :
    Laid (front ++ onAir sent last) (places front.length sent) := by
  induction sent generalizing front with
  | nil => exact ⟨fun place held => (nomatch held), List.Pairwise.nil⟩
  | cons one rest previous =>
    have joined : front ++ onAir (one :: rest) last =
        front ++ one.garbage ++ one.frame ++ onAir rest last := by
      simp [onAir]
    have lengths : (front ++ one.garbage ++ one.frame).length =
        front.length + one.garbage.length + one.frame.length := by
      rw [List.length_append, List.length_append]
    have ⟨there, apart⟩ := previous (front ++ one.garbage ++ one.frame)
    rw [lengths] at there apart
    rw [joined]
    constructor
    · intro place held
      rcases List.mem_cons.mp held with same | later
      · subst same
        have behind : (front ++ one.garbage ++ one.frame ++ onAir rest last).drop
            (front.length + one.garbage.length) = one.frame ++ onAir rest last := by
          rw [← List.length_append, List.append_assoc _ one.frame, List.drop_left]
        exact ⟨one.whole, _, behind⟩
      · exact there place later
    · exact List.Pairwise.cons (places_behind rest _) apart

section

variable {stream : List UInt8} {held : List Place}

/-- A frame has at least one byte. -/
theorem Laid.filled (laid : Laid stream held) {place : Place} (among : place ∈ held) :
    place.start < place.stop := by
  have bounds := (laid.there place among).1.bounds
  unfold Place.stop
  omega

/-- Different frames that were sent have no byte in common. -/
theorem Laid.disjoint (laid : Laid stream held) {place other : Place} (among : place ∈ held)
    (among' : other ∈ held) :
    place = other ∨ place.stop ≤ other.start ∨ other.stop ≤ place.start := by
  have symmetric : Std.Symm fun first second : Place =>
      first.stop ≤ second.start ∨ second.stop ≤ first.start := ⟨fun _ _ => Or.symm⟩
  have pairs : held.Pairwise fun first second : Place =>
      first.stop ≤ second.start ∨ second.stop ≤ first.start := laid.apart.imp .inl
  by_cases same : place = other
  · exact .inl same
  · exact .inr (pairs.forall among among' same)

/-- A position is inside the place of a frame only if that is shadowed. -/
def Clear (stream : List UInt8) (held : List Place) (start : Nat) : Prop :=
  ∀ place ∈ held, place.start < start → start < place.stop → Shadowed stream held place

/-- Bytes that are a frame, and begin where no frame was sent, shadow the frames that they reach
into. -/
theorem Clear.shadows {start : Nat} {frame : List UInt8} {place : Place}
    (clear : Clear stream held start) (there : FrameAt stream start frame)
    (other : ∀ place ∈ held, place.start ≠ start) (among : place ∈ held)
    (overlaps : Overlaps start frame place) : Shadowed stream held place := by
  by_cases within : ∃ other ∈ held, other.start ≤ start ∧ start < other.stop
  · have ⟨around, among', begins, ends⟩ := within
    have earlier : around.start < start := Nat.lt_of_le_of_ne begins (other around among')
    exact .inside there (clear around among' earlier ends) ⟨earlier, ends⟩ among overlaps
  · exact .garbage there (fun other among' inside => within ⟨other, among', inside⟩) among overlaps

/-- Behind a frame that was sent no frame is inside. -/
theorem Laid.clear_stop (laid : Laid stream held) {place : Place} (among : place ∈ held) :
    Clear stream held place.stop := by
  intro other among' begins ends
  have filled := laid.filled among
  have filled' := laid.filled among'
  rcases laid.disjoint among among' with same | before | after
  · rw [same] at ends
    omega
  · omega
  · omega

/-- Behind bytes that are taken for a frame and were not sent as one. -/
theorem Clear.taken {start : Nat} {frame : List UInt8} (clear : Clear stream held start)
    (there : FrameAt stream start frame) (other : ∀ place ∈ held, place.start ≠ start) :
    Clear stream held (start + frame.length) := by
  intro place among begins ends
  exact clear.shadows there other among ⟨by omega, begins⟩

/-- Behind bytes among which no frame begins. -/
theorem Clear.skipped {start count : Nat} (laid : Laid stream held)
    (clear : Clear stream held start)
    (free : ∀ offset < count, ¬ StartsFrame ((stream.drop start).drop offset)) :
    Clear stream held (start + count) ∧
      ∀ place ∈ held, start ≤ place.start → start + count ≤ place.start := by
  have notAt (place : Place) (among : place ∈ held) (behind : start ≤ place.start) :
      start + count ≤ place.start := by
    by_contra inside
    have ⟨whole, rest, split⟩ := laid.there place among
    apply free (place.start - start) (by omega)
    rw [List.drop_drop, Nat.add_sub_cancel' behind]
    exact ⟨_, rest, split, whole⟩
  refine ⟨fun place among begins ends => ?_, notAt⟩
  have earlier : place.start < start := by
    by_contra behind
    have later := notAt place among (by omega)
    omega
  exact clear place among earlier (by omega)

end

/-- No frame begins among bytes that are not the magic byte. -/
theorem not_startsFrame_drop {bytes : List UInt8} (free : ∀ byte ∈ bytes, byte ≠ dl2Magic)
    (rest : List UInt8) {offset : Nat} (inside : offset < bytes.length) :
    ¬ StartsFrame ((bytes ++ rest).drop offset) := by
  intro starts
  have head := starts.head
  rw [List.head?_drop, List.getElem?_append_left inside, List.getElem?_eq_getElem inside,
    Option.some.injEq] at head
  exact free _ (List.getElem_mem inside) head

/-- What is taken is a frame, or no frame begins among its bytes. -/
theorem Found.frame_or_free {buf : List UInt8} {event : Option StreamEvent} {count : Nat}
    (found : Found buf event count) :
    (∃ frame rest decoded, buf = frame ++ rest ∧ IsDl2 frame ∧ decodeDl2 frame = some decoded ∧
      event = some (.frame decoded) ∧ count = frame.length) ∨
    ∀ offset < count, ¬ StartsFrame (buf.drop offset) := by
  cases found with
  | empty | unfinished | waiting => exact .inr fun offset below => absurd below (Nat.not_lt_zero _)
  | frame whole reads => exact .inl ⟨_, _, _, rfl, whole, reads, rfl, rfl⟩
  | rejected _ no =>
    refine .inr fun offset below => ?_
    rw [Nat.lt_one_iff.mp below]
    exact no
  | stray magic _ =>
    refine .inr fun offset below => ?_
    rw [Nat.lt_one_iff.mp below]
    exact not_startsFrame magic _
  | @line text rest plain _ =>
    refine .inr fun offset below => ?_
    have joined : text ++ 10 :: rest = (text ++ [10]) ++ rest := by simp
    rw [joined]
    exact not_startsFrame_drop plain.line_ne_magic rest (by simpa using below)
  | beforeMagic plain _ =>
    exact .inr fun offset below =>
      not_startsFrame_drop (fun byte held => (plain byte held).2) _ below
  | @overflow head text _ plain _ _ =>
    refine .inr fun offset below => ?_
    rw [← List.append_nil (head :: text)]
    exact not_startsFrame_drop (fun byte held => (plain byte held).2) [] below

/-- The loop does not stop in front of a frame that has enough bytes behind it. -/
theorem Found.not_waiting {buf : List UInt8} {event : Option StreamEvent} {offset : Nat}
    (found : Found buf event 0) (starts : StartsFrame (buf.drop offset))
    (long : 88 ≤ buf.length) (inside : offset < buf.length) : False := by
  generalize stopped : 0 = count at found
  cases found with
  | empty => exact absurd inside (Nat.not_lt_zero _)
  | frame whole _ =>
    have bounds := whole.bounds
    omega
  | rejected | stray | line | beforeMagic | overflow => cases stopped
  | unfinished short => exact short (Settled.of_length long)
  | @waiting head text plain _ _ =>
    rw [← List.append_nil (head :: text)] at starts
    exact not_startsFrame_drop (fun byte held => (plain byte held).2) [] inside starts

/-! ## Runs -/

/-- Among events are those of decoded frames, in order. -/
def Finds (events : List StreamEvent) (kept : List Place) : Prop :=
  ∃ frames : List Dl2Frame, kept.map (fun place => decodeDl2 place.frame) = frames.map some ∧
    (frames.map StreamEvent.frame).Sublist events

/-- No frame is among any events. -/
theorem Finds.nil (events : List StreamEvent) : Finds events [] :=
  ⟨[], rfl, List.nil_sublist events⟩

/-- Frames that are found later are found. -/
theorem Finds.later {events : List StreamEvent} {kept : List Place} (finds : Finds events kept)
    (before : List StreamEvent) : Finds (before ++ events) kept := by
  have ⟨frames, reads, inOrder⟩ := finds
  exact ⟨frames, reads, inOrder.trans (List.sublist_append_right before events)⟩

/-- A frame is found in front of those that are found later. -/
theorem Finds.cons {events : List StreamEvent} {kept : List Place} (finds : Finds events kept)
    {place : Place} {decoded : Dl2Frame} (reads : decodeDl2 place.frame = some decoded) :
    Finds (.frame decoded :: events) (place :: kept) := by
  have ⟨frames, rest, inOrder⟩ := finds
  refine ⟨decoded :: frames, ?_, inOrder.cons_cons _⟩
  rw [List.map_cons, List.map_cons, reads, rest]

/-- A frame that was sent and is still to come has at least 88 bytes behind it and is not
shadowed. -/
structure Due (stream : List UInt8) (held : List Place) (start : Nat) (place : Place) : Prop where
  ahead : start ≤ place.start
  enough : place.stop + 88 ≤ stream.length
  bare : ¬ Shadowed stream held place

section

variable {stream : List UInt8} {held : List Place}

/-- The loop does not stop while a frame is still to come. -/
theorem Laid.not_waiting (laid : Laid stream held) {start : Nat} {place : Place}
    (among : place ∈ held) (due : Due stream held start place) {event : Option StreamEvent}
    (waits : tryParse (stream.drop start) = some (event, 0)) : False := by
  have ⟨whole, rest, split⟩ := laid.there place among
  have filled := laid.filled among
  have ahead := due.ahead
  have enough := due.enough
  have starts : StartsFrame ((stream.drop start).drop (place.start - start)) := by
    rw [List.drop_drop, Nat.add_sub_cancel' ahead]
    exact ⟨_, rest, split, whole⟩
  have length := @List.length_drop _ start stream
  exact (found_of_tryParse waits).not_waiting starts (by omega) (by omega)

/-- What is still to come at a position is still to come at a later one at which it begins. -/
theorem due_later {start stop : Nat} {kept those : List Place}
    (due : ∀ place ∈ kept, Due stream held start place) (part : those.Sublist kept)
    (ahead : ∀ place ∈ those, stop ≤ place.start) :
    ∀ place ∈ those, Due stream held stop place := by
  intro place inPart
  have earlier := due place (part.subset inPart)
  exact ⟨ahead place inPart, earlier.enough, earlier.bare⟩

/-- Where a frame was sent, it is the next of those still to come, or all of them are behind it. -/
theorem Laid.next_or_behind (laid : Laid stream held) {place : Place} (among : place ∈ held)
    {kept : List Place} (chosen : kept.Sublist held)
    (due : ∀ other ∈ kept, Due stream held place.start other) :
    (∃ rest, kept = place :: rest ∧ ∀ other ∈ rest, place.stop ≤ other.start) ∨
      ∀ other ∈ kept, place.stop ≤ other.start := by
  cases kept with
  | nil => exact .inr fun other inKept => (nomatch inKept)
  | cons head kept =>
    have ⟨order, _⟩ := List.pairwise_cons.mp (laid.apart.sublist chosen)
    have amongHead := chosen.subset List.mem_cons_self
    have filled := laid.filled amongHead
    have ahead := (due head List.mem_cons_self).ahead
    rcases laid.disjoint among amongHead with isHead | before | after
    · rw [isHead]
      exact .inl ⟨kept, rfl, order⟩
    · refine .inr fun other inKept => ?_
      rcases List.mem_cons.mp inKept with isHead | inKept
      · rw [isHead]
        exact before
      · have behind := order other inKept
        omega
    · omega

/-- Bytes that are a frame and were not sent as one do not reach into what is still to come. -/
theorem Clear.spares (laid : Laid stream held) {start : Nat} {frame : List UInt8} {place : Place}
    (clear : Clear stream held start) (there : FrameAt stream start frame)
    (other : ∀ place ∈ held, place.start ≠ start) (among : place ∈ held)
    (due : Due stream held start place) : start + frame.length ≤ place.start := by
  have filled := laid.filled among
  have ahead := due.ahead
  by_contra reached
  exact due.bare (clear.shadows there other among ⟨by omega, by omega⟩)

/-- From a position inside no frame but a shadowed one, the stream finds the frames that are still
to come. -/
theorem Laid.finds (laid : Laid stream held) {buf left : List UInt8} {events : List StreamEvent}
    (scans : Scans tryParse buf events left) {start : Nat} (there : buf = stream.drop start)
    (clear : Clear stream held start) {kept : List Place} (chosen : kept.Sublist held)
    (due : ∀ place ∈ kept, Due stream held start place) : Finds events kept := by
  induction scans generalizing start kept with
  | stop waits =>
    cases kept with
    | nil => exact Finds.nil _
    | cons place kept =>
      have among := chosen.subset List.mem_cons_self
      rw [there] at waits
      exact (laid.not_waiting among (due place List.mem_cons_self) waits).elim
  | @turn buf _ left event events first later previous =>
    obtain @⟨count, parsed, taken⟩ := first
    have next : buf.drop count = stream.drop (start + count) := by rw [there, List.drop_drop]
    rcases (found_of_tryParse parsed).frame_or_free with
      ⟨frame, rest, decoded, split, whole, reads, rfl, rfl⟩ | free
    · have here : FrameAt stream start frame := ⟨whole, rest, by rw [← there, split]⟩
      by_cases sentHere : ∃ place ∈ held, place.start = start
      · have ⟨place, among, begins⟩ := sentHere
        have ⟨whole', rest', split'⟩ := laid.there place among
        have same : place.frame = frame := by
          rw [begins, ← there, split] at split'
          exact (whole.unique whole' split').1.symm
        have clear' := laid.clear_stop among
        have stops : start + frame.length = place.stop := by rw [← begins, ← same, Place.stop]
        rw [stops] at next
        rw [← begins] at due
        rcases laid.next_or_behind among chosen due with ⟨rest, whole, behind⟩ | behind
        · have part : rest.Sublist kept := whole ▸ List.sublist_cons_self place rest
          rw [whole]
          exact (previous next clear' (part.trans chosen) (due_later due part behind)).cons
            (same ▸ reads)
        · exact (previous next clear' chosen
            (due_later due (List.Sublist.refl _) behind)).later _
      · have other : ∀ place ∈ held, place.start ≠ start :=
          fun place among begins => sentHere ⟨place, among, begins⟩
        have ahead : ∀ place ∈ kept, start + frame.length ≤ place.start := fun place inKept =>
          clear.spares laid here other (chosen.subset inKept) (due place inKept)
        exact (previous next (clear.taken here other) chosen
          (due_later due (List.Sublist.refl _) ahead)).later _
    · rw [there] at free
      have ⟨clear', skips⟩ := clear.skipped laid free
      have ahead : ∀ place ∈ kept, start + count ≤ place.start := fun place inKept =>
        skips place (chosen.subset inKept) (due place inKept).ahead
      exact (previous next clear' chosen (due_later due (List.Sublist.refl _) ahead)).later _

end

/-- Of frames that are sent with garbage before, between and behind them, the stream finds in
order those that have at least 88 bytes behind them and are not shadowed. Its loop ends from every
buffer, and every turn of it takes at least one byte. -/
theorem good_frames_found (sent : List Sent) (last : List UInt8) :
    (∀ kept : List Place, kept.Sublist (places 0 sent) →
      (∀ place ∈ kept, place.stop + 88 ≤ (onAir sent last).length ∧
        ¬ Shadowed (onAir sent last) (places 0 sent) place) →
      ∃ events left, feed [] (onAir sent last) = some (events, left) ∧ Finds events kept) ∧
    (∀ buf, ∃ events left, feed [] buf = some (events, left) ∧ Scans tryParse buf events left) ∧
    ∀ buf event next, Turn tryParse buf event next → next.length + 1 ≤ buf.length := by
  have ends (buf : List UInt8) :
      ∃ events left, feed [] buf = some (events, left) ∧ Scans tryParse buf events left := by
    have ⟨events, left, scans⟩ := Scans.ends tryParse_progress buf
    exact ⟨events, left, drain_scans scans, scans⟩
  refine ⟨fun kept chosen good => ?_, ends, fun _ _ _ turn => turn.shorter tryParse_progress⟩
  have ⟨events, left, fed, scans⟩ := ends (onAir sent last)
  have laid := laid_places sent [] last
  have clear : Clear (onAir sent last) (places 0 sent) 0 :=
    fun place _ begins => absurd begins (Nat.not_lt_zero _)
  have due : ∀ place ∈ kept, Due (onAir sent last) (places 0 sent) 0 place :=
    fun place inKept => ⟨Nat.zero_le _, (good place inKept).1, (good place inKept).2⟩
  exact ⟨events, left, fed, laid.finds scans rfl clear chosen due⟩

/-- A frame of the shortest length. -/
def shortFrame : List UInt8 :=
  [0xD2, 48, 1, 0, 0, 0, 0, 0, 235, 112] ++ List.replicate 38 0 ++ [151, 11]

/-- A frame of the longest length, with a magic byte and a length inside. -/
def longFrame : List UInt8 :=
  [0xD2, 86] ++ List.replicate 44 0 ++ [12, 147, 0xD2, 48] ++ List.replicate 36 0 ++ [226, 177]

theorem isDl2_shortFrame : IsDl2 shortFrame := by decide +kernel

theorem isDl2_longFrame : IsDl2 longFrame := by decide +kernel

/-- A frame behind two bytes of text is found. -/
theorem good_frames_found_text : ∃ events left,
    feed [] (onAir [⟨[65, 66], shortFrame, isDl2_shortFrame⟩] (List.replicate 88 0)) =
      some (events, left) ∧ Finds events [⟨2, shortFrame⟩] := by
  refine (good_frames_found [⟨[65, 66], shortFrame, isDl2_shortFrame⟩] (List.replicate 88 0)).1
    [⟨2, shortFrame⟩] (List.Sublist.refl _) fun place inKept => ?_
  rw [List.mem_singleton.mp inKept]
  refine ⟨by decide +kernel, fun shadowed => ?_⟩
  have ⟨start, frame, there, outside, other, among, overlaps⟩ := shadowed.begins
  rw [List.mem_singleton.mp among] at overlaps
  have inside := outside _ (List.mem_singleton.mpr rfl)
  have before : start < 2 := by
    have ends := overlaps.1
    dsimp only [List.length_cons, List.length_nil, Nat.zero_add] at inside ends
    omega
  have ⟨whole, rest, split⟩ := there
  have starts : StartsFrame ([65, 66] ++ (shortFrame ++ List.replicate 88 0) |>.drop start) :=
    ⟨frame, rest, split, whole⟩
  have free : ∀ byte ∈ ([65, 66] : List UInt8), byte ≠ dl2Magic := by decide +kernel
  exact not_startsFrame_drop free _ before starts

/-- Where no magic byte is, no frame is found. -/
theorem scans_no_frame {buf left : List UInt8} {events : List StreamEvent}
    (scans : Scans tryParse buf events left) (free : ∀ byte ∈ buf, byte ≠ dl2Magic)
    (decoded : Dl2Frame) : .frame decoded ∉ events := by
  induction scans with
  | stop _ => exact List.not_mem_nil
  | turn first _ previous =>
    obtain @⟨count, parsed, taken⟩ := first
    have later := previous fun byte held => free byte (List.mem_of_mem_drop held)
    cases found_of_tryParse parsed with
    | frame whole _ =>
      have ⟨stated, behind, shape⟩ := whole.shape
      exact absurd rfl (free dl2Magic (by simp [shape]))
    | empty | unfinished | waiting => exact absurd rfl taken
    | rejected | stray | line | beforeMagic | overflow => simpa using later

/-- Two frames follow one another behind two bytes of garbage. The garbage and the front of the
first make a frame, and what remains of the first makes one with the front of the second, so that
the second is lost although no frame that begins in the garbage reaches into it. -/
theorem frame_lost_behind_lost :
    let sent : List Sent :=
      [⟨[0xD2, 48], longFrame, isDl2_longFrame⟩, ⟨[], shortFrame, isDl2_shortFrame⟩]
    let stream := onAir sent (List.replicate 88 0)
    ⟨90, shortFrame⟩ ∈ places 0 sent ∧ 90 + shortFrame.length + 88 ≤ stream.length ∧
      (∀ start frame, FrameAt stream start frame →
        (∀ other ∈ places 0 sent, ¬ (other.start ≤ start ∧ start < other.stop)) →
        ¬ Overlaps start frame ⟨90, shortFrame⟩) ∧
      ∃ events left decoded, feed [] stream = some (events, left) ∧
        decodeDl2 shortFrame = some decoded ∧ .frame decoded ∉ events := by
  intro sent stream
  refine ⟨List.mem_of_mem_tail List.mem_cons_self, by decide +kernel, ?_, ?_⟩
  · intro start frame there outside overlaps
    have first := outside ⟨2, longFrame⟩ List.mem_cons_self
    have second := outside ⟨90, shortFrame⟩ (List.mem_of_mem_tail List.mem_cons_self)
    have longLength : longFrame.length = 88 := by decide +kernel
    have shortLength : shortFrame.length = 50 := by decide +kernel
    have bounds := there.1.bounds
    unfold Overlaps at overlaps
    unfold Place.stop at first second overlaps
    dsimp only at first second overlaps
    omega
  · have split : stream = ([0xD2, 48] ++ longFrame.take 48) ++
        ((longFrame.drop 48 ++ shortFrame.take 10) ++
          (shortFrame.drop 10 ++ List.replicate 88 0)) := by decide +kernel
    have first : IsDl2 ([0xD2, 48] ++ longFrame.take 48) := by decide +kernel
    have second : IsDl2 (longFrame.drop 48 ++ shortFrame.take 10) := by decide +kernel
    have free : ∀ byte ∈ shortFrame.drop 10 ++ List.replicate 88 0, byte ≠ dl2Magic := by
      decide +kernel
    have other : decodeDl2 shortFrame ≠ decodeDl2 ([0xD2, 48] ++ longFrame.take 48) ∧
        decodeDl2 shortFrame ≠ decodeDl2 (longFrame.drop 48 ++ shortFrame.take 10) := by
      decide +kernel
    have ⟨decoded, reads⟩ :=
      Option.isSome_iff_exists.mp (decodeDl2_isSome isDl2_shortFrame.bounds.1)
    have ⟨taken, reads₁⟩ := Option.isSome_iff_exists.mp (decodeDl2_isSome first.bounds.1)
    have ⟨taken', reads₂⟩ := Option.isSome_iff_exists.mp (decodeDl2_isSome second.bounds.1)
    have ⟨events, left, later⟩ := Scans.ends tryParse_progress
      (shortFrame.drop 10 ++ List.replicate 88 0)
    have scans := scans_frame first reads₁ (scans_frame second reads₂ later)
    rw [← split] at scans
    rw [reads, reads₁, reads₂] at other
    refine ⟨_, left, decoded, drain_scans scans, reads, ?_⟩
    intro inEvents
    rcases List.mem_cons.mp inEvents with same | inEvents
    · exact other.1 (congrArg some (StreamEvent.frame.inj same))
    rcases List.mem_cons.mp inEvents with same | inEvents
    · exact other.2 (congrArg some (StreamEvent.frame.inj same))
    · exact scans_no_frame later free decoded inEvents

end CfsTelemetry.Ground
