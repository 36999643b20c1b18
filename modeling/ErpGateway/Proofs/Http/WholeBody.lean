import ErpGateway.Http.Body
import Mathlib.Tactic.Common

namespace ErpGateway.Json

open Text (Octets)

def Spacing (octets : Octets) : Prop :=
  ∀ b ∈ octets, b = 0x20 ∨ b = 0x09 ∨ b = 0x0A ∨ b = 0x0D

section Reader

variable {r : Reader} {d d' : Document}

lemma Reader.isSpace_iff {b : UInt8} :
    Reader.isSpace b = true ↔ b = 0x20 ∨ b = 0x09 ∨ b = 0x0A ∨ b = 0x0D := by
  simp [Reader.isSpace, or_assoc]

instance (octets : Octets) : Decidable (Spacing octets) :=
  decidable_of_iff (octets.all Reader.isSpace = true) <| by
    simp only [List.all_eq_true, Reader.isSpace_iff, Spacing]

lemma Reader.step_finished (d : Document) (b : UInt8) :
    Reader.step ⟨.between, .finished d⟩ b =
      if Reader.isSpace b then some ⟨.between, .finished d⟩ else none :=
  rfl

lemma Reader.run_finished (d : Document) (octets : Octets) (r : Reader) :
    Reader.run ⟨.between, .finished d⟩ octets = some r ↔
      Spacing octets ∧ r = ⟨.between, .finished d⟩ := by
  induction octets with
  | nil => simp [Reader.run, Spacing, eq_comm]
  | cons b octets ih =>
    rw [Spacing, List.forall_mem_cons, ← Reader.isSpace_iff, Reader.run, Reader.step_finished]
    by_cases hb : Reader.isSpace b = true
    · rw [if_pos hb, Option.bind_some, ih, and_iff_right hb]
      rfl
    · rw [if_neg hb]
      simp [hb]

lemma Reader.closeValue_eq_finished {inside : List Frame}
    (h : Reader.closeValue d inside = .finished d') : d' = d := by
  cases inside with
  | nil => cases h; rfl
  | cons frame inside => cases frame <;> cases h

lemma Reader.giveValue_eq_finished {phase : Phase}
    (h : Reader.giveValue d phase = some (.finished d')) : d' = d := by
  cases phase with
  | value inside => exact Reader.closeValue_eq_finished (Option.some.inj h)
  | _ => cases h

lemma Reader.eq_of_finish (h : r.finish = some d) (hd : ∀ spelling, d ≠ .number spelling) :
    r = ⟨.between, .finished d⟩ := by
  obtain ⟨token, phase⟩ := r
  cases token with
  | between =>
    cases phase with
    | finished d' => cases h; rfl
    | _ => cases h
  | word rest value => cases h
  | text part seen => cases h
  | number part seen =>
    rw [Reader.finish] at h
    dsimp only at h
    split at h
    · rename_i d' hphase
      cases h
      split at hphase
      · exact absurd (Reader.giveValue_eq_finished hphase) (hd _)
      · cases hphase
    · cases h

lemma Document.read_append {octets more : Octets} (h : Document.read octets = some d)
    (hd : ∀ spelling, d ≠ .number spelling) :
    Document.read (octets ++ more) = some d' ↔ Spacing more ∧ d' = d := by
  obtain ⟨r, hrun, hfinish⟩ := Option.bind_eq_some_iff.mp h
  obtain rfl := Reader.eq_of_finish hfinish hd
  rw [Document.read, Reader.run_append, hrun, Option.bind_some, Option.bind_eq_some_iff]
  simp only [Reader.run_finished]
  constructor
  · rintro ⟨_, ⟨hmore, rfl⟩, hfinish'⟩
    exact ⟨hmore, Option.some.inj (hfinish'.symm.trans hfinish)⟩
  · rintro ⟨hmore, rfl⟩
    exact ⟨_, ⟨hmore, rfl⟩, hfinish⟩

lemma Record.ne_number_of_ofDocument? {names : MemberNames} {record : Record}
    (h : Record.ofDocument? names d = some record) (spelling : Octets) : d ≠ .number spelling := by
  rintro rfl
  cases h

end Reader

end ErpGateway.Json

namespace ErpGateway.Http

open Text (Octets)
open Json (Spacing)

section Records

variable {α : Type} {names : Json.MemberNames} {ofRecord? : Json.Record → Option α}
  {body more : Octets} {value : α}

def decoded (names : Json.MemberNames) (ofRecord? : Json.Record → Option α) (body : Octets) :
    Except Failure α :=
  match (recordOf? names body).bind ofRecord? with
  | some b => .ok b
  | none => .error malformedBody

lemma recordOf?_append {record record' : Json.Record} (h : recordOf? names body = some record) :
    recordOf? names (body ++ more) = some record' ↔ Spacing more ∧ record' = record := by
  obtain ⟨d, hread, hrecord⟩ := Option.bind_eq_some_iff.mp h
  rw [recordOf?, Option.bind_eq_some_iff]
  simp only [Json.Document.read_append hread (Json.Record.ne_number_of_ofDocument? hrecord)]
  constructor
  · rintro ⟨_, ⟨hmore, rfl⟩, hrecord'⟩
    exact ⟨hmore, Option.some.inj (hrecord'.symm.trans hrecord)⟩
  · rintro ⟨hmore, rfl⟩
    exact ⟨d, ⟨hmore, rfl⟩, hrecord⟩

lemma decoded_eq_ok_iff :
    decoded names ofRecord? body = .ok value ↔
      ∃ record, recordOf? names body = some record ∧ ofRecord? record = some value := by
  rw [← Option.bind_eq_some_iff, decoded]
  cases (recordOf? names body).bind ofRecord? <;> simp

lemma QueryBody.ofOctets_eq (body : Octets) :
    QueryBody.ofOctets body = decoded [["query"], ["params"]] QueryBody.ofRecord? body := by
  rw [QueryBody.ofOctets, decoded]
  cases (recordOf? [["query"], ["params"]] body).bind QueryBody.ofRecord? <;> rfl

lemma PriceBody.ofOctets_eq (body : Octets) :
    PriceBody.ofOctets body = decoded PriceBody.memberNames PriceBody.ofRecord? body := by
  rw [PriceBody.ofOctets, decoded]
  cases (recordOf? PriceBody.memberNames body).bind PriceBody.ofRecord? <;> rfl

/-- Behind a body that is taken blanks may come and change nothing, and anything else makes it malformed. -/
def EndsWithValue (decode : Octets → Except Failure α) (body more : Octets) : Prop :=
  ∀ value, decode body = .ok value →
    (∀ value', decode (body ++ more) = .ok value' ↔ Spacing more ∧ value' = value) ∧
      (¬ Spacing more → ∃ failure, decode (body ++ more) = .error failure ∧
        failure.kind = .malformedJson)

lemma endsWithValue_of_eq_decoded {decode : Octets → Except Failure α}
    (heq : ∀ body, decode body = decoded names ofRecord? body) (body more : Octets) :
    EndsWithValue decode body more := by
  intro value h
  rw [heq] at h
  rw [heq]
  obtain ⟨record, hrecord, hvalue⟩ := decoded_eq_ok_iff.mp h
  have htaken : ∀ value', decoded names ofRecord? (body ++ more) = .ok value' ↔
      Spacing more ∧ value' = value := by
    intro value'
    simp only [decoded_eq_ok_iff, recordOf?_append hrecord]
    constructor
    · rintro ⟨_, ⟨hmore, rfl⟩, hvalue'⟩
      exact ⟨hmore, Option.some.inj (hvalue'.symm.trans hvalue)⟩
    · rintro ⟨hmore, rfl⟩
      exact ⟨record, ⟨hmore, rfl⟩, hvalue⟩
  refine ⟨htaken, fun hmore => ?_⟩
  cases hdecoded : decoded names ofRecord? (body ++ more) with
  | ok value' => exact absurd ((htaken value').mp hdecoded).1 hmore
  | error failure =>
    rw [decoded] at hdecoded
    split at hdecoded
    · cases hdecoded
    · cases hdecoded
      exact ⟨_, rfl, rfl⟩

end Records

theorem body_ends_with_value (body more : Octets) :
    EndsWithValue QueryBody.ofOctets body more ∧ EndsWithValue PriceBody.ofOctets body more :=
  ⟨endsWithValue_of_eq_decoded QueryBody.ofOctets_eq body more,
    endsWithValue_of_eq_decoded PriceBody.ofOctets_eq body more⟩

theorem body_ends_with_value_nested :
    PriceBody.ofOctets (Text.utf8 "[[\"A\"]]") = .ok { skus := ["A"] } ∧
      PriceBody.ofOctets (Text.utf8 "[[\"A\"]]" ++ Text.utf8 " \n") = .ok { skus := ["A"] } ∧
      ∃ failure, PriceBody.ofOctets (Text.utf8 "[[\"A\"]]" ++ Text.utf8 ",") = .error failure ∧
        failure.kind = .malformedJson := by
  have htaken : PriceBody.ofOctets (Text.utf8 "[[\"A\"]]") = .ok { skus := ["A"] } := by
    decide +kernel
  refine ⟨htaken, ?_, ?_⟩
  · exact (((body_ends_with_value _ _).2 _ htaken).1 _).mpr ⟨by decide +kernel, rfl⟩
  · exact ((body_ends_with_value _ _).2 _ htaken).2 (by decide +kernel)

end ErpGateway.Http
