import WorkspaceServers.Proofs.Rpc.Members
import WorkspaceServers.Rpc.Incoming

/-!
What the frames of a server are taken for. Two members tell the kind of a frame, its id and its
method; nothing else in a response keeps it from its request, and an error that makes no sense
fails the request like any other. What a client builds is taken for what it was built as.
-/

namespace WorkspaceServers

section Words

variable {json : Json}

theorem Json.exists_num_of_int? {value : Int} (whole : json.int? = some value) :
    ∃ inRange, json = .num (.int value inRange) := by
  cases json with
  | num number =>
    cases number with
    | int value' inRange =>
      cases whole
      exact ⟨inRange, rfl⟩
    | real value' => cases whole
  | null | bool _ | str _ | arr _ | obj _ => cases whole

theorem Json.natBelow?_of_int? {value bound : Nat} (whole : json.int? = some (value : Int))
    (below : value < bound) : json.natBelow? bound = some value := by
  have bounds : (0 : Int) ≤ value ∧ (value : Int) < bound :=
    ⟨Int.natCast_nonneg _, Int.ofNat_lt.mpr below⟩
  rw [natBelow?, whole, Option.bind_eq_bind, Option.bind_some, if_pos bounds, Int.toNat_natCast]

theorem Json.uint64?_ofUInt64 (word : UInt64) : (ofUInt64 word).uint64? = some word := by
  have whole : (ofUInt64 word).int? = some (word.toNat : Int) := rfl
  rw [uint64?, natBelow?_of_int? whole word.toNat_lt, Option.map_some, UInt64.ofNat_toNat]

theorem Json.uint32?_ofUInt32 (word : UInt32) : (ofUInt32 word).uint32? = some word := by
  have whole : (ofUInt32 word).int? = some (word.toNat : Int) := rfl
  rw [uint32?, natBelow?_of_int? whole word.toNat_lt, Option.map_some, UInt32.ofNat_toNat]

theorem Json.uint64?_eq_some_iff {word : UInt64} :
    json.uint64? = some word ↔ json = .ofUInt64 word := by
  constructor
  · intro found
    obtain ⟨number, below, rfl⟩ := Option.map_eq_some_iff.mp found
    obtain ⟨value, whole, bounded⟩ := Option.bind_eq_some_iff.mp below
    obtain ⟨inRange, rfl⟩ := exists_num_of_int? whole
    split at bounded
    · obtain rfl := Option.some.inj bounded
      have same : ((UInt64.ofNat value.toNat).toNat : Int) = value := by
        rw [UInt64.toNat_ofNat_of_lt' (by omega)]
        omega
      simp only [ofUInt64, Number.ofUInt64, same]
    · cases bounded
  · rintro rfl
    exact uint64?_ofUInt64 word

theorem Json.int64?_ofInt64 (word : Int64) : (ofInt64 word).int64? = some word := by
  have whole : (ofInt64 word).int? = some word.toInt := rfl
  have bound : word.toInt < 0x8000000000000000 := word.toInt_lt
  rw [int64?, whole, Option.bind_eq_bind, Option.bind_some, if_pos bound, Int64.ofInt_toInt]

theorem Json.int64?_eq_some_iff {word : Int64} :
    json.int64? = some word ↔ json = .ofInt64 word := by
  constructor
  · intro found
    obtain ⟨value, whole, bounded⟩ := Option.bind_eq_some_iff.mp found
    obtain ⟨inRange, rfl⟩ := exists_num_of_int? whole
    split at bounded
    · obtain rfl := Option.some.inj bounded
      have same : (Int64.ofInt value).toInt = value :=
        Int64.toInt_ofInt_of_le (by omega) (by omega)
      simp only [ofInt64, Number.ofInt64, same]
    · cases bounded
  · rintro rfl
    exact int64?_ofInt64 word

theorem Json.str?_eq_some_iff {text : String} : json.str? = some text ↔ json = .str text := by
  cases json with
  | str value => simp [str?]
  | null | bool _ | num _ | arr _ | obj _ => simp [str?]

end Words

namespace Rpc

section Errors

/-- An error carries the data that it is sent with; null is no data. -/
def Sent (member data : Option Json) : Prop :=
  ∀ json, data = some json ↔ member = some json ∧ json ≠ .null

inductive Describes : Json → ResponseError → Prop
  | object {fields : List (String × Json)} {error : ResponseError}
      (code : Keyed.find? "code" fields = some (.ofInt64 error.code))
      (message : Keyed.find? "message" fields = some (.str error.message))
      (data : Sent (Keyed.find? "data" fields) error.data) : Describes (.obj fields) error
  | pair (code : Int64) (message : String) :
      Describes (.arr [.ofInt64 code, .str message]) ⟨code, message, none⟩
  | triple {code : Int64} {message : String} {member : Json} {data : Option Json}
      (sent : Sent (some member) data) :
      Describes (.arr [.ofInt64 code, .str message, member]) ⟨code, message, data⟩

variable {code message member : Option Json} {error : ResponseError} {json : Json}

theorem sent_iff {data : Option Json} :
    Sent member data ↔ (member.filter fun json => !json.isNull) = data := by
  have null_iff (json : Json) : json.isNull = false ↔ json ≠ .null := by
    cases json <;> simp [Json.isNull]
  constructor
  · intro sent
    apply Option.ext
    intro json
    rw [Option.filter_eq_some_iff, sent]
    simp [null_iff]
  · rintro rfl json
    rw [Option.filter_eq_some_iff]
    simp [null_iff]

theorem ofParts?_eq_some_iff :
    ResponseError.ofParts? code message member = some error ↔
      code = some (.ofInt64 error.code) ∧ message = some (.str error.message) ∧
        Sent member error.data := by
  rw [sent_iff]
  constructor
  · intro read
    obtain ⟨code, present, read'⟩ := Option.bind_eq_some_iff.mp read
    obtain ⟨number, coded, read''⟩ := Option.bind_eq_some_iff.mp read'
    obtain ⟨message, present', read'''⟩ := Option.bind_eq_some_iff.mp read''
    obtain ⟨text, worded, made⟩ := Option.bind_eq_some_iff.mp read'''
    obtain rfl := Option.some.inj made
    rw [present, present', Json.int64?_eq_some_iff.mp coded, Json.str?_eq_some_iff.mp worded]
    exact ⟨rfl, rfl, rfl⟩
  · rintro ⟨rfl, rfl, same⟩
    simp [ResponseError.ofParts?, Json.int64?_ofInt64, Json.str?, same]

theorem ofJson?_eq_some_iff : ResponseError.ofJson? json = some error ↔ Describes json error := by
  constructor
  · intro read
    unfold ResponseError.ofJson? at read
    split at read
    · obtain ⟨code, message, data⟩ := ofParts?_eq_some_iff.mp read
      exact .object code message data
    · obtain ⟨code, message, data⟩ := ofParts?_eq_some_iff.mp read
      obtain ⟨number, text, none_sent⟩ := error
      obtain rfl : none = none_sent := sent_iff.mp data
      rw [Option.some.inj code, Option.some.inj message]
      exact .pair number text
    · obtain ⟨code, message, data⟩ := ofParts?_eq_some_iff.mp read
      rw [Option.some.inj code, Option.some.inj message]
      exact .triple data
    · cases read
  · intro describes
    cases describes with
    | object code message data => exact ofParts?_eq_some_iff.mpr ⟨code, message, data⟩
    | pair code message => exact ofParts?_eq_some_iff.mpr ⟨rfl, rfl, sent_iff.mpr rfl⟩
    | triple sent => exact ofParts?_eq_some_iff.mpr ⟨rfl, rfl, sent⟩

end Errors

section Kinds

variable {frame id : Json} {method : String} {params : Option Json}

def Unnamed (frame : Json) : Prop := ∀ method, frame.field? "method" ≠ some (.str method)

inductive Carries (frame : Json) : Except ResponseError Json → Prop
  | failure {json : Json} {error : ResponseError} (member : frame.field? "error" = some json)
      (describes : Describes json error) : Carries frame (.error error)
  | muddle {json : Json} (member : frame.field? "error" = some json)
      (senseless : ∀ error, ¬ Describes json error) :
      Carries frame (.error ⟨-32603, "malformed error object: " ++ json.text, none⟩)
  | result {json : Json} (sound : frame.field? "error" = none)
      (member : frame.field? "result" = some json) : Carries frame (.ok json)
  | nothing (sound : frame.field? "error" = none) (absent : frame.field? "result" = none) :
      Carries frame (.ok .null)

theorem name_eq_some_iff : (frame.field? "method").bind Json.str? = some method ↔
    frame.field? "method" = some (.str method) := by
  rw [Option.bind_eq_some_iff]
  constructor
  · rintro ⟨json, member, text⟩
    rw [member, Json.str?_eq_some_iff.mp text]
  · intro member
    exact ⟨_, member, rfl⟩

theorem name_eq_none_iff : (frame.field? "method").bind Json.str? = none ↔ Unnamed frame := by
  simp only [Option.eq_none_iff_forall_ne_some, ne_eq, name_eq_some_iff, Unnamed]

theorem outcomeOf_eq_iff {outcome : Except ResponseError Json} :
    Incoming.outcomeOf frame = outcome ↔ Carries frame outcome := by
  constructor
  · rintro rfl
    unfold Incoming.outcomeOf
    split
    · rename_i json member
      rw [Incoming.errorOf]
      cases read : ResponseError.ofJson? json with
      | some error => exact .failure member (ofJson?_eq_some_iff.mp read)
      | none =>
        refine .muddle member fun error describes => ?_
        rw [ofJson?_eq_some_iff.mpr describes] at read
        cases read
    · rename_i sound
      cases member : frame.field? "result" with
      | some json => exact .result sound member
      | none => exact .nothing sound member
  · intro carries
    cases carries with
    | failure member describes =>
      simp only [Incoming.outcomeOf, member, Incoming.errorOf, ofJson?_eq_some_iff.mpr describes,
        Option.getD_some]
    | @muddle json member senseless =>
      -- An error member that spells no error still fails the request.
      have unread : ResponseError.ofJson? json = none := by
        rw [Option.eq_none_iff_forall_ne_some]
        exact fun error read => senseless error (ofJson?_eq_some_iff.mp read)
      simp only [Incoming.outcomeOf, member, Incoming.errorOf, unread, Option.getD_none]
      rfl
    | result sound member => simp only [Incoming.outcomeOf, sound, member, Option.getD_some]
    | nothing sound absent => simp only [Incoming.outcomeOf, sound, absent, Option.getD_none]

/-- The kind of a frame, told by its members. -/
structure Classified (frame : Json) : Prop where
  request_iff : ∀ id method, Incoming.ofJson? frame = some (.request id method) ↔
    frame.field? "id" = some id ∧ frame.field? "method" = some (.str method)
  notification_iff : ∀ method params,
    Incoming.ofJson? frame = some (.notification method params) ↔
      frame.field? "id" = none ∧ frame.field? "method" = some (.str method) ∧
        frame.field? "params" = params
  response_iff : ∀ id outcome, Incoming.ofJson? frame = some (.response id outcome) ↔
    frame.field? "id" = some (.ofUInt64 id) ∧ Unnamed frame ∧ Carries frame outcome
  delivered : ∀ id, frame.field? "id" = some (.ofUInt64 id) → Unnamed frame →
    ∃ outcome, Incoming.ofJson? frame = some (.response id outcome)
  malformed_iff : Incoming.ofJson? frame = none ↔
    Unnamed frame ∧ ∀ id, frame.field? "id" ≠ some (.ofUInt64 id)

theorem classified (frame : Json) : Classified frame := by
  constructor
  · intro id method
    rw [← name_eq_some_iff, Incoming.ofJson?]
    cases frame.field? "id" <;> cases (frame.field? "method").bind Json.str? <;> simp
  · intro method params
    rw [← name_eq_some_iff, Incoming.ofJson?]
    cases frame.field? "id" <;> cases (frame.field? "method").bind Json.str? <;> simp
  · -- Only a number can be the id of a response.
    intro id outcome
    rw [← name_eq_none_iff, ← outcomeOf_eq_iff, Incoming.ofJson?]
    cases frame.field? "id" with
    | none => cases (frame.field? "method").bind Json.str? <;> simp
    | some json =>
      cases (frame.field? "method").bind Json.str? with
      | some method => simp
      | none =>
        simp only [Option.map_eq_some_iff, Json.uint64?_eq_some_iff, Incoming.response.injEq,
          Option.some.injEq, true_and]
        constructor
        · rintro ⟨_, numbered, rfl, told⟩
          exact ⟨numbered, told⟩
        · rintro ⟨numbered, told⟩
          exact ⟨id, numbered, rfl, told⟩
  · intro id numbered unnamed
    rw [← name_eq_none_iff] at unnamed
    refine ⟨Incoming.outcomeOf frame, ?_⟩
    simp only [Incoming.ofJson?, numbered, unnamed, Json.uint64?_ofUInt64, Option.map_some]
  · rw [← name_eq_none_iff, Incoming.ofJson?]
    cases frame.field? "id" <;> cases (frame.field? "method").bind Json.str? <;>
      simp [Option.eq_none_iff_forall_ne_some, Json.uint64?_eq_some_iff]

end Kinds

section Builders

theorem unnamed_methodNotFound (id : Json) (method : String) :
    Unnamed (methodNotFound id method) := by
  intro name
  simp [field?_methodNotFound]

theorem describes_refusal (method : String) :
    Describes (refusal method) ⟨-32601, "Method not found: " ++ method, none⟩ := by
  refine .object ?_ ?_ ?_
  · simp [Keyed.find?_ofList, Keyed.find?, ResponseError.methodNotFound]
  · simp [Keyed.find?_ofList, Keyed.find?]
  · rw [sent_iff]
    simp [Keyed.find?_ofList, Keyed.find?]

structure Recognized : Prop where
  request : ∀ id method params, Incoming.ofJson? (request id method params) =
    some (.request (.ofUInt64 id) method)
  notification : ∀ method params, Incoming.ofJson? (notification method params) =
    some (.notification method params)
  refusal : ∀ id method, Incoming.ofJson? (methodNotFound (.ofUInt64 id) method) =
    some (.response id (.error ⟨-32601, "Method not found: " ++ method, none⟩))
  /-- A refusal of a request whose id is no number answers none of the client's. -/
  stray : ∀ id method, (∀ number, id ≠ .ofUInt64 number) →
    Incoming.ofJson? (methodNotFound id method) = none

theorem recognized : Recognized := by
  constructor
  · intro id method params
    apply ((classified _).request_iff _ _).mpr
    simp [field?_request]
  · intro method params
    apply ((classified _).notification_iff _ _).mpr
    simp [field?_notification]
  · intro id method
    apply ((classified _).response_iff _ _).mpr
    refine ⟨?_, unnamed_methodNotFound _ _, .failure ?_ (describes_refusal method)⟩
    · simp [field?_methodNotFound]
    · simp [field?_methodNotFound]
  · intro id method stray
    apply (classified _).malformed_iff.mpr
    refine ⟨unnamed_methodNotFound _ _, fun number => ?_⟩
    simp [field?_methodNotFound, stray number]

theorem frames_classified : (∀ frame, Classified frame) ∧ Recognized :=
  ⟨classified, recognized⟩

end Builders

end Rpc

end WorkspaceServers
