import WorkspaceServers.Proofs.Answer.Records
import WorkspaceServers.Session.Operation

/-!
Which answers to the handshake are taken: those whose capabilities are each of their kind, no
matter what else a server tells. Nothing but capabilities of the protocol is written again.
-/

namespace WorkspaceServers

namespace Json.Reading

variable {members : List Member} {values : List (Option Json)} {json kept : Json}

theorem isSome_mapM_entry?_iff (entries : List (Member × Option Json)) :
    (entries.mapM Member.entry?).isSome ↔ ∀ entry ∈ entries, (entry.1.read entry.2).isSome := by
  induction entries with
  | nil => simp
  | cons entry rest ih =>
    obtain ⟨member, value⟩ := entry
    rw [List.mapM_cons, List.forall_mem_cons, ← ih, Member.entry?]
    cases member.read value <;> cases rest.mapM Member.entry? <;> simp

theorem isSome_record_iff : (record members json).isSome ↔
    ∃ values, members? (members.map Member.name) json = some values ∧
      ∀ entry ∈ members.zip values, (entry.1.read entry.2).isSome := by
  rw [record]
  cases members? (members.map Member.name) json with
  | none => simp
  | some values =>
    simp only [← isSome_mapM_entry?_iff, Option.some_inj, exists_eq_left']
    change (keep members values).isSome ↔ _
    rw [keep, Option.isSome_map]

/-- A record is read by its members alone. -/
theorem isSome_record_obj_iff (entries : List (String × Json)) :
    (record members (.obj entries)).isSome ↔
      ∀ member ∈ members, (member.read (Keyed.find? member.name entries)).isSome := by
  rw [isSome_record_iff, members?, List.map_map]
  simp only [Option.some_inj, exists_eq_left']
  induction members with
  | nil => simp
  | cons member rest ih =>
    rw [List.map_cons, List.zip_cons_cons, List.forall_mem_cons, List.forall_mem_cons, ih]
    rfl

theorem isSome_record_arr_iff (items : List Json) :
    (record members (.arr items)).isSome ↔ items.length = members.length ∧
      ∀ entry ∈ members.zip (items.map some), (entry.1.read entry.2).isSome := by
  rw [isSome_record_iff, members?, List.length_map]
  split <;> simp [*]

theorem mem_of_mapM_entry? {entries : List (Member × Option Json)}
    {written : List (String × Option Json)} (read : entries.mapM Member.entry? = some written)
    {pair : String × Option Json} (among : pair ∈ written) :
    ∃ entry ∈ entries, entry.1.name = pair.1 := by
  induction entries generalizing written with
  | nil =>
    obtain rfl := Option.some.inj read
    cases among
  | cons entry rest ih =>
    rw [List.mapM_cons] at read
    obtain ⟨first, readFirst, read⟩ := Option.bind_eq_some_iff.mp read
    obtain ⟨others, readOthers, made⟩ := Option.bind_eq_some_iff.mp read
    obtain rfl := Option.some.inj made
    rcases List.mem_cons.mp among with rfl | later
    · obtain ⟨_, _, rfl⟩ := Option.map_eq_some_iff.mp readFirst
      exact ⟨entry, List.mem_cons_self, rfl⟩
    · obtain ⟨found, member, named⟩ := ih readOthers later
      exact ⟨found, List.mem_cons_of_mem _ member, named⟩

theorem mem_names_of_record (read : record members json = some kept) :
    ∃ entries, kept = .obj entries ∧ ∀ entry ∈ entries, entry.1 ∈ members.map Member.name := by
  obtain ⟨values, _, read⟩ := Option.bind_eq_some_iff.mp read
  obtain ⟨written, reads, rfl⟩ := Option.map_eq_some_iff.mp read
  refine ⟨_, rfl, fun entry among => ?_⟩
  obtain ⟨pair, asked, made⟩ := List.mem_filterMap.mp (mem_of_mem_ofList among)
  obtain ⟨value, _, rfl⟩ := Option.map_eq_some_iff.mp made
  obtain ⟨⟨member, _⟩, zipped, named⟩ := mem_of_mapM_entry? reads asked
  exact List.mem_map.mpr ⟨member, (List.of_mem_zip zipped).1, named⟩

end Json.Reading

namespace Answer

open Json (members? optional?)

namespace Capabilities

/-- Each capability is of its kind or left out, in an object or in a list of all of them. -/
def OfKinds : Json → Prop
  | .obj entries => ∀ member ∈ members, (member.read (Keyed.find? member.name entries)).isSome
  | .arr items => items.length = members.length ∧
      ∀ entry ∈ members.zip (items.map some), (entry.1.read entry.2).isSome
  | _ => False

theorem isSome_read_iff (json : Json) : (read json).isSome ↔ OfKinds json := by
  cases json with
  | obj entries => exact Json.Reading.isSome_record_obj_iff entries
  | arr items => exact Json.Reading.isSome_record_arr_iff items
  -- No scalar is a record.
  | null | bool _ | num _ | str _ => exact iff_of_false Bool.false_ne_true id

end Capabilities

open Session.Question (handshake)

variable {result : Json} {answer : Handshake}

/-- A handshake is answered well if the server tells its capabilities, each of its kind, and if it
names itself, does so rightly. -/
theorem isOk_conclude_handshake_iff : (handshake.conclude (.ok result)).isOk ↔
    ∃ capabilities server,
      members? ["capabilities", "serverInfo"] result = some [some capabilities, server] ∧
      Capabilities.OfKinds capabilities ∧ (optional? ServerInfo.ofJson? server).isSome := by
  have told : (handshake.conclude (.ok result)).isOk = (Handshake.ofJson? result).isSome := by
    rw [Session.Question.conclude, Session.Question.concludeBy, Session.Question.read?]
    cases Handshake.ofJson? result <;> rfl
  simp only [told, Handshake.ofJson?, ← Capabilities.isSome_read_iff]
  cases found : members? ["capabilities", "serverInfo"] result with
  | none => simp
  | some members =>
    obtain ⟨capabilities, server, rfl⟩ := List.length_eq_two.mp (Json.length_members? found)
    cases capabilities with
    | none => simp [Json.required?]
    | some capabilities =>
      cases kept : Capabilities.read capabilities <;>
        cases known : optional? ServerInfo.ofJson? server <;> simp [Json.required?, kept, known]

/-- A number is no way to complete. -/
example : (handshake.conclude (.ok (.object [("capabilities",
    .object [("completionProvider", .ofUInt64 5)])]))).isOk = false := by
  decide +kernel

/-- All capabilities can be left out of a list as well. -/
example : (handshake.conclude (.ok (.arr [.arr (.replicate 34 .null), .null]))).isOk = true := by
  decide +kernel

/-- What is no capability of the protocol is not told again. -/
theorem mem_names_of_handshake (read : Handshake.ofJson? result = some answer) :
    ∃ entries, answer.capabilities = .obj entries ∧
      ∀ entry ∈ entries, entry.1 ∈ Capabilities.members.map Json.Member.name := by
  obtain ⟨members, found, rest⟩ := Option.bind_eq_some_iff.mp read
  obtain ⟨capabilities, server, rfl⟩ := List.length_eq_two.mp (Json.length_members? found)
  obtain ⟨kept, readKept, rest⟩ := Option.bind_eq_some_iff.mp rest
  obtain ⟨_, _, made⟩ := Option.bind_eq_some_iff.mp rest
  obtain rfl := Option.some.inj made
  obtain ⟨json, rfl, readKept⟩ := required?_eq_some_iff.mp readKept
  exact Json.Reading.mem_names_of_record readKept

end Answer

end WorkspaceServers
