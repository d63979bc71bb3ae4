import WorkspaceServers.CommandLine.Rehearsal
import WorkspaceServers.Proofs.Session.Speaking

/-!
One turn of a rehearsal, and the run as its turns. Whatever part the server plays, a turn
queues the frame of its operation as long as frames are taken, and then nothing any more.
-/

namespace WorkspaceServers.CommandLine

open Session (Operation Reply Speaks Hushed Fades)

namespace Rehearsal

section Play

variable {operation : Operation} {session : Session}

theorem fades_befall (session : Session) (happening : Happening) :
    Fades session (happening.befall session).1 := by
  cases happening with
  | incident incident =>
    exact Session.fades_withTransport (fun transport => transport.slot?_suffer incident) session
  | shutSink => exact Session.fades_withTransport (fun _ => .inl rfl) session
  | processEnded => exact Session.fades_processEnded session

theorem replies_befall (session : Session) (happening : Happening) :
    ∀ command ∈ (happening.befall session).1.queue.drop session.queue.length,
      command.IsReply := by
  cases happening with
  | incident incident =>
    exact Session.replies_withTransport (fun transport => transport.replies_suffer incident) session
  | shutSink =>
    refine Session.replies_withTransport (fun transport => ?_) session
    exact (Transport.Replies.of_same rfl).drop_queue
  | processEnded => exact Session.replies_processEnded session

theorem fades_play (session : Session) (happenings : List Happening) :
    Fades session (play session happenings).session := by
  induction happenings generalizing session with
  | nil => exact .refl session
  | cons happening rest ih => exact (fades_befall session happening).trans (ih _)

theorem replies_play (session : Session) (happenings : List Happening) :
    ∀ command ∈ (play session happenings).aside, command.IsReply := by
  induction happenings generalizing session with
  | nil => exact nofun
  | cons happening rest ih =>
    intro command added
    rcases List.mem_append.mp added with here | later
    · exact replies_befall session happening command here
    · exact ih _ command later

theorem act_plays (rehearsal : Rehearsal) (operation : Operation) (session : Session) :
    ∃ played, (act rehearsal operation session).2 =
      play (session.start rehearsal.machine operation).session played := by
  cases progress : (session.start rehearsal.machine operation).progress with
  | finished result =>
    simp only [act, progress]
    exact ⟨_, rfl⟩
  | waiting id question =>
    simp only [act, progress]
    split <;> exact ⟨_, rfl⟩

theorem act_finished {rehearsal : Rehearsal} {result : Except Failure Reply}
    (finished : (session.start rehearsal.machine operation).progress = .finished result) :
    (act rehearsal operation session).1 = result := by
  simp only [act, finished]

end Play

def Stands (rehearsal : Rehearsal) (root : Path) (slot : Option UInt64) : Prop :=
  ∃ session, rehearsal.session? = some session ∧ session.root = root ∧ session.slot? = slot

def OnlyReplies (rehearsal : Rehearsal) : Prop := ∀ command ∈ rehearsal.aside, command.IsReply

structure Adds (before after : Rehearsal) (turn : Turn) : Prop where
  turns : after.turns = before.turns ++ [turn]
  text : after.text? = before.text?
  aside : ∃ replies, after.aside = before.aside ++ replies ∧ ∀ command ∈ replies, command.IsReply

theorem OnlyReplies.append {before after : Rehearsal} (only : OnlyReplies before)
    {more : List Transport.Command} (aside : after.aside = before.aside ++ more)
    (replies : ∀ command ∈ more, command.IsReply) : OnlyReplies after := by
  intro command added
  rw [aside] at added
  exact (List.mem_append.mp added).elim (only command) (replies command)

theorem Adds.onlyReplies {before after : Rehearsal} {turn : Turn} (adds : Adds before after turn)
    (only : OnlyReplies before) : OnlyReplies after := by
  obtain ⟨more, aside, replies⟩ := adds.aside
  exact only.append aside replies

section Perform

variable {rehearsal : Rehearsal} {session : Session} {root : Path} {operation : Operation}
variable {slot : Option UInt64} {json : Json}

theorem session?_proceed (stands : rehearsal.session? = some session) (passage : Passage) :
    (rehearsal.proceed passage).session? = some passage.session := by
  have below := (List.getElem?_eq_some_iff.mp stands).1
  exact List.getElem?_set_self below

theorem perform_eq (stands : rehearsal.session? = some session) :
    perform operation rehearsal =
      ((act rehearsal operation session).1,
        { rehearsal.proceed (act rehearsal operation session).2 with
          turns := rehearsal.turns ++ [⟨operation,
            (session.start rehearsal.machine operation).session.slot?.isSome,
            (session.start rehearsal.machine operation).session.queue.drop session.queue.length,
            (act rehearsal operation session).1⟩] }) := by
  simp only [perform, stands]

theorem stands_perform (stands : rehearsal.session? = some session) (operation : Operation) :
    Stands (perform operation rehearsal).2
        (session.start rehearsal.machine operation).session.root none ∨
      Stands (perform operation rehearsal).2
        (session.start rehearsal.machine operation).session.root
        (session.start rehearsal.machine operation).session.slot? := by
  rw [perform_eq stands]
  obtain ⟨played, plays⟩ := act_plays rehearsal operation session
  rw [plays]
  have fades := fades_play (session.start rehearsal.machine operation).session played
  rcases fades.slot with kept | lost
  · exact .inr ⟨_, session?_proceed stands _, fades.root, kept⟩
  · exact .inl ⟨_, session?_proceed stands _, fades.root, lost⟩

theorem adds_of_session (stands : rehearsal.session? = some session) (operation : Operation) :
    Adds rehearsal (perform operation rehearsal).2 ⟨operation,
      (session.start rehearsal.machine operation).session.slot?.isSome,
      (session.start rehearsal.machine operation).session.queue.drop session.queue.length,
      (perform operation rehearsal).1⟩ := by
  obtain ⟨played, plays⟩ := act_plays rehearsal operation session
  rw [perform_eq stands]
  refine ⟨rfl, rfl, _, rfl, ?_⟩
  rw [plays]
  exact replies_play _ played

theorem adds_perform (stands : Stands rehearsal root slot) (operation : Operation) :
    ∃ turn, Adds rehearsal (perform operation rehearsal).2 turn ∧ turn.operation = operation ∧
      turn.succeeded = (perform operation rehearsal).1.isOk := by
  obtain ⟨session, stands, -, -⟩ := stands
  exact ⟨_, adds_of_session stands operation, rfl, rfl⟩

theorem adds_of_speaks (stands : rehearsal.session? = some session) {next : UInt64}
    (speaks : Speaks session (session.start rehearsal.machine operation) json next) :
    Adds rehearsal (perform operation rehearsal).2
      ⟨operation, true, [.frame json], (perform operation rehearsal).1⟩ := by
  have adds := adds_of_session stands operation
  rw [speaks.slot, speaks.queue, List.drop_left] at adds
  exact adds

theorem adds_of_hushed (stands : rehearsal.session? = some session)
    (hushed : Hushed session (session.start rehearsal.machine operation)) :
    Adds rehearsal (perform operation rehearsal).2
      ⟨operation, false, [], (perform operation rehearsal).1⟩ := by
  have adds := adds_of_session stands operation
  rw [hushed.slot, hushed.queue, List.drop_length] at adds
  exact adds

end Perform

end Rehearsal

end WorkspaceServers.CommandLine
