import LoxExpressions.Console

/-!
Emissions: bytes handed to the two streams of a run one at a time. A console takes those up to the
first byte that its stream has no room for.
-/

namespace LoxExpressions

inductive Stream where
  | out | err
  deriving DecidableEq, Repr

structure Emission where
  stream : Stream
  byte : UInt8
  deriving DecidableEq, Repr

def utf8Bytes (text : String) : List UInt8 := text.toUTF8.data.toList

namespace Stream

def emit (stream : Stream) (bytes : List UInt8) : List Emission := bytes.map (Emission.mk stream)

def received (stream : Stream) (emissions : List Emission) : List UInt8 :=
  (emissions.filter (·.stream = stream)).map Emission.byte

@[simp]
theorem emit_nil (stream : Stream) : stream.emit [] = [] := rfl

@[simp]
theorem emit_append (stream : Stream) (bytes more : List UInt8) :
    stream.emit (bytes ++ more) = stream.emit bytes ++ stream.emit more := List.map_append

@[simp]
theorem received_append (stream : Stream) (emissions more : List Emission) :
    stream.received (emissions ++ more) = stream.received emissions ++ stream.received more := by
  simp [received]

@[simp]
theorem received_emit (stream : Stream) (bytes : List UInt8) :
    stream.received (stream.emit bytes) = bytes := by
  simp [received, emit, List.filter_map, Function.comp_def]

end Stream

namespace Sink

def accept? (sink : Sink) (byte : UInt8) : Option Sink :=
  match sink.room with
  | none => some ⟨sink.written.push byte, none⟩
  | some 0 => none
  | some (room + 1) => some ⟨sink.written.push byte, some room⟩

theorem accept?_eq_none_iff {sink : Sink} {byte : UInt8} :
    sink.accept? byte = none ↔ sink.room = some 0 := by
  obtain ⟨written, room⟩ := sink
  match room with
  | none | some 0 | some (room + 1) => simp [accept?]

theorem of_accept?_eq_some {sink later : Sink} {byte : UInt8}
    (accepted : sink.accept? byte = some later) :
    later.room = sink.room.map (· - 1) ∧ later.written = sink.written.push byte := by
  obtain ⟨written, room⟩ := sink
  match room with
  | none | some (room + 1) =>
    cases accepted
    exact ⟨rfl, rfl⟩
  | some 0 => cases accepted

theorem write_nil (sink : Sink) : sink.write (List.toByteArray []) = (true, sink) := by
  obtain ⟨written, room⟩ := sink
  cases room <;> simp [write]

theorem push_append (written : ByteArray) (byte : UInt8) (bytes : List UInt8) :
    written.push byte ++ bytes.toByteArray = written ++ (byte :: bytes).toByteArray := by
  apply ByteArray.ext
  simp

theorem extract_toByteArray (bytes : List UInt8) (room : Nat) :
    bytes.toByteArray.extract 0 room = (bytes.take room).toByteArray := by
  apply ByteArray.ext
  simp

/-- A write takes its bytes one at a time. -/
theorem write_cons (sink : Sink) (byte : UInt8) (bytes : List UInt8) :
    sink.write (byte :: bytes).toByteArray =
      match sink.accept? byte with
      | some sink => sink.write bytes.toByteArray
      | none => (false, sink) := by
  obtain ⟨written, room⟩ := sink
  match room with
  | none => simp [write, accept?, push_append]
  | some 0 => simp [write, accept?]
  | some (room + 1) =>
    simp only [write, accept?, List.size_toByteArray, List.length_cons, Nat.add_le_add_iff_right,
      Nat.add_sub_add_right, push_append, extract_toByteArray, List.take_succ_cons]

end Sink

namespace Console

def sink (console : Console) : Stream → Sink
  | .out => console.out
  | .err => console.err

def withSink (console : Console) : Stream → Sink → Console
  | .out, out => { console with out }
  | .err, err => { console with err }

def accept? (console : Console) (emission : Emission) : Option Console :=
  ((console.sink emission.stream).accept? emission.byte).map (console.withSink emission.stream)

/-- Takes emissions up to the first that does not fit, and tells whether these were all. -/
def feed (console : Console) : List Emission → Bool × Console
  | [] => (true, console)
  | emission :: rest =>
    match console.accept? emission with
    | some console => console.feed rest
    | none => (false, console)

def Fits (console : Console) (emissions : List Emission) : Prop :=
  ∀ stream, ∀ room ∈ (console.sink stream).room, (stream.received emissions).length ≤ room

/-- What a console becomes that has taken all emissions. -/
structure Took (console : Console) (emissions : List Emission) (later : Console) : Prop where
  room : ∀ stream, (later.sink stream).room =
    (console.sink stream).room.map (· - (stream.received emissions).length)
  written : ∀ stream, (later.sink stream).written.data.toList =
    (console.sink stream).written.data.toList ++ stream.received emissions

@[simp]
theorem sink_withSink_self (console : Console) (stream : Stream) (sink : Sink) :
    (console.withSink stream sink).sink stream = sink := by
  cases stream <;> rfl

theorem sink_withSink_of_ne {stream other : Stream} (ne : stream ≠ other) (console : Console)
    (sink : Sink) : (console.withSink stream sink).sink other = console.sink other := by
  cases stream <;> cases other <;> first | rfl | exact absurd rfl ne

@[simp]
theorem withSink_sink (console : Console) (stream : Stream) :
    console.withSink stream (console.sink stream) = console := by
  cases stream <;> rfl

@[simp]
theorem withSink_withSink (console : Console) (stream : Stream) (sink later : Sink) :
    (console.withSink stream sink).withSink stream later = console.withSink stream later := by
  cases stream <;> rfl

theorem feed_append (console : Console) (emissions more : List Emission) :
    console.feed (emissions ++ more) =
      if (console.feed emissions).1 then (console.feed emissions).2.feed more
      else console.feed emissions := by
  induction emissions generalizing console with
  | nil => rfl
  | cons emission rest ih =>
    cases accepted : console.accept? emission with
    | none => simp [feed, accepted]
    | some next => simpa [feed, accepted] using ih next

theorem accept?_eq_none_iff {console : Console} {emission : Emission} :
    console.accept? emission = none ↔ (console.sink emission.stream).room = some 0 :=
  Option.map_eq_none_iff.trans Sink.accept?_eq_none_iff

/-- A byte takes room from its own stream only. -/
theorem took_of_accept? {console later : Console} {emission : Emission}
    (accepted : console.accept? emission = some later) : console.Took [emission] later := by
  obtain ⟨stream, byte⟩ := emission
  obtain ⟨sink, taken, rfl⟩ := Option.map_eq_some_iff.1 accepted
  obtain ⟨room, written⟩ := Sink.of_accept?_eq_some taken
  constructor
  · intro other
    by_cases same : stream = other
    · subst same
      simp [Stream.received, room]
    · simp [Stream.received, same, sink_withSink_of_ne same]
  · intro other
    by_cases same : stream = other
    · subst same
      simp [Stream.received, written]
    · simp [Stream.received, same, sink_withSink_of_ne same]

theorem Took.trans {first second third : Console} {emissions more : List Emission}
    (took : first.Took emissions second) (took' : second.Took more third) :
    first.Took (emissions ++ more) third := by
  constructor
  · intro stream
    simp [took'.room, took.room, Function.comp_def, Nat.sub_sub]
  · intro stream
    simp [took'.written, took.written]

theorem Fits.of_append {console : Console} {emissions more : List Emission}
    (fits : console.Fits (emissions ++ more)) : console.Fits emissions := by
  intro stream room mem
  have whole := fits stream room mem
  rw [Stream.received_append, List.length_append] at whole
  omega

theorem Took.fits_append_iff {console later : Console} {emissions more : List Emission}
    (took : console.Took emissions later) (fits : console.Fits emissions) :
    console.Fits (emissions ++ more) ↔ later.Fits more := by
  refine forall_congr' fun stream => ?_
  have enough := fits stream
  rw [took.room, Stream.received_append, List.length_append]
  cases limit : (console.sink stream).room with
  | none => simp
  | some room =>
    have := enough room (by rw [limit]; rfl)
    simp only [Option.mem_def, Option.some.injEq, forall_eq', Option.map_some]
    omega

theorem fits_singleton_iff {console : Console} {emission : Emission} :
    console.Fits [emission] ↔ console.accept? emission ≠ none := by
  obtain ⟨stream, byte⟩ := emission
  rw [Ne, accept?_eq_none_iff]
  constructor
  · intro fits full
    have one := fits stream 0 full
    simp [Stream.received] at one
  · intro free other room mem
    by_cases same : stream = other
    · subst same
      have some : room ≠ 0 := by
        rintro rfl
        exact free mem
      simp only [Stream.received, decide_true, List.filter_cons_of_pos, List.filter_nil,
        List.map_cons, List.map_nil, List.length_singleton]
      omega
    · simp [Stream.received, same]

/-- Emissions that fit are all taken. -/
theorem feed_of_fits {console : Console} {emissions : List Emission}
    (fits : console.Fits emissions) :
    ∃ later, console.feed emissions = (true, later) ∧ console.Took emissions later := by
  induction emissions generalizing console with
  | nil => exact ⟨console, rfl, by simp [Stream.received], by simp [Stream.received]⟩
  | cons emission rest ih =>
    have whole : console.Fits ([emission] ++ rest) := fits
    have first := whole.of_append
    obtain ⟨next, accepted⟩ := Option.ne_none_iff_exists'.1 (fits_singleton_iff.1 first)
    have took := took_of_accept? accepted
    obtain ⟨later, fed, took'⟩ := ih ((took.fits_append_iff first).1 fits)
    refine ⟨later, ?_, took.trans took'⟩
    simpa only [feed, accepted] using fed

/-- Of emissions that do not all fit, those before the first that does not are taken. -/
theorem feed_of_not_fits {console : Console} {before : List Emission} {next : Emission}
    (after : List Emission) (fits : console.Fits before)
    (misfit : ¬console.Fits (before ++ [next])) :
    ∃ later, console.feed (before ++ next :: after) = (false, later) ∧
      console.Took before later := by
  obtain ⟨later, fed, took⟩ := feed_of_fits fits
  rw [took.fits_append_iff fits, fits_singleton_iff, Classical.not_not] at misfit
  refine ⟨later, ?_, took⟩
  rw [feed_append, fed]
  simp only [feed, misfit, ↓reduceIte]

/-- If not all emissions fit, there is a first that does not. -/
theorem exists_first_misfit {console : Console} {before rest : List Emission}
    (fits : console.Fits before) (misfit : ¬console.Fits (before ++ rest)) :
    ∃ passed next after, rest = passed ++ next :: after ∧ console.Fits (before ++ passed) ∧
      ¬console.Fits (before ++ passed ++ [next]) := by
  induction rest generalizing before with
  | nil => exact absurd (by simpa using fits) misfit
  | cons emission rest ih =>
    rw [List.append_cons] at misfit
    by_cases more : console.Fits (before ++ [emission])
    · obtain ⟨passed, next, after, rfl, fits', misfit'⟩ := ih more misfit
      exact ⟨emission :: passed, next, after, rfl, by simpa using fits', by simpa using misfit'⟩
    · exact ⟨[], emission, rest, rfl, by simpa using fits, by simpa using more⟩

/-- Bytes for one stream are written to its sink. -/
theorem feed_emit (console : Console) (stream : Stream) (bytes : List UInt8) :
    console.feed (stream.emit bytes) =
      (((console.sink stream).write bytes.toByteArray).1,
        console.withSink stream ((console.sink stream).write bytes.toByteArray).2) := by
  induction bytes generalizing console with
  | nil =>
    rw [Sink.write_nil, withSink_sink]
    rfl
  | cons byte rest ih =>
    have step : stream.emit (byte :: rest) = ⟨stream, byte⟩ :: stream.emit rest := rfl
    rw [step, feed, accept?, Sink.write_cons]
    cases (console.sink stream).accept? byte with
    | none => simp
    | some next => simp [ih]

end Console

end LoxExpressions
