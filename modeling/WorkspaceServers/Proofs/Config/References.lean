import WorkspaceServers.Config.Expand
import WorkspaceServers.Proofs.Text.Cutting

/-!
Configured texts as references to variables with plain text between them. A text has exactly
one such reading, in which openings that nothing closes are plain, and to expand the text is
to put the values in the places of the references.
-/

namespace WorkspaceServers.Config

/-- A reference, with the plain text between it and the one before. -/
@[ext]
structure Reference where
  before : List Char
  name : List Char

def compose : List Reference → List Char → List Char
  | [], last => last
  | reference :: rest, last =>
    reference.before ++ '$' :: '{' :: (reference.name ++ '}' :: compose rest last)

def Closed (text : List Char) : Prop :=
  ∃ before name after, text = before ++ '$' :: '{' :: (name ++ '}' :: after)

structure Decomposes (text : List Char) (references : List Reference) (last : List Char) :
    Prop where
  whole : text = compose references last
  plain : ∀ reference ∈ references, ¬ ['$', '{'] <:+: reference.before
  named : ∀ reference ∈ references, '}' ∉ reference.name
  ended : ¬ Closed last

/-- No variable has the empty name. -/
def valueOf (lookup : String → Option String) (name : List Char) : List Char :=
  if name = [] then []
  else match lookup (String.ofList name) with
    | some value => value.toList
    | none => []

def resolve (lookup : String → Option String) : List Reference → List Char → List Char
  | [], last => last
  | reference :: rest, last =>
    reference.before ++ (valueOf lookup reference.name ++ resolve lookup rest last)

section Openings

variable {before name after text : List Char}

/-- Only what stands behind the first opening can close one. -/
theorem closed_iff_mem (plain : ¬ ['$', '{'] <:+: before) :
    Closed (before ++ '$' :: '{' :: after) ↔ '}' ∈ after := by
  constructor
  · rintro ⟨front, name, behind, same⟩
    have closes (more : List Char)
        (opens : '$' :: '{' :: after = more ++ '$' :: '{' :: (name ++ '}' :: behind)) :
        '}' ∈ after := by
      have member : '}' ∈ '$' :: '{' :: after := by
        rw [opens]
        simp
      simpa using member
    rcases List.append_eq_append_iff.mp same with ⟨more, -, opens⟩ | ⟨more, rfl, opens⟩
    · exact closes more opens
    · cases more with
      | nil => exact closes [] opens.symm
      | cons c more =>
        -- The opening that is closed would begin in `before`.
        have begins : ['$', '{'] <+: (c :: more) ++ (['$', '{'] ++ after) :=
          ⟨name ++ '}' :: behind, opens⟩
        have inside := Text.prefix_of_lone (by decide) (List.cons_ne_nil c more) begins
        exact absurd (inside.isInfix.trans (List.suffix_append front _).isInfix) plain
  · intro member
    obtain ⟨name, behind, rfl⟩ := List.append_of_mem member
    exact ⟨before, name, behind, rfl⟩

theorem not_closed_of_plain (plain : ¬ ['$', '{'] <:+: text) : ¬ Closed text := by
  rintro ⟨front, name, behind, rfl⟩
  exact plain ⟨front, name ++ '}' :: behind, by simp⟩

theorem not_closed_append (unclosed : ¬ Closed text) (unmarked : '}' ∉ after) :
    ¬ Closed (text ++ after) := by
  rintro ⟨front, name, behind, same⟩
  have split : text ++ after = (front ++ '$' :: '{' :: name) ++ '}' :: behind := by simp [same]
  -- The closing is no part of `after`, so all that it closes is part of `text`.
  rcases List.append_eq_append_iff.mp split with ⟨more, -, rfl⟩ | ⟨more, rfl, closes⟩
  · exact unmarked (by simp)
  · cases more with
    | nil => exact unmarked (by rw [← List.nil_append after, ← closes]; simp)
    | cons c more =>
      obtain ⟨rfl, rfl⟩ := List.cons_eq_cons.mp closes
      exact unclosed ⟨front, name, more, by simp⟩

theorem not_closed_or_reference (text : List Char) :
    ¬ Closed text ∨ ∃ before name after, text = before ++ '$' :: '{' :: (name ++ '}' :: after) ∧
      ¬ ['$', '{'] <:+: before ∧ '}' ∉ name := by
  rcases Text.unmarked_or_first '$' ['{'] text with plain | ⟨before, after, rfl, plain⟩
  · exact .inl (not_closed_of_plain plain)
  · by_cases closes : '}' ∈ after
    · obtain ⟨name, behind, rfl, fresh⟩ := List.eq_append_cons_of_mem closes
      exact .inr ⟨before, name, behind, rfl, plain, fresh⟩
    · exact .inl (fun closed => closes ((closed_iff_mem plain).mp closed))

end Openings

section Decompositions

variable {text last last' : List Char} {references references' : List Reference}

theorem Decomposes.tail {reference : Reference} {rest : List Reference}
    (decomposes : Decomposes text (reference :: rest) last) :
    Decomposes (compose rest last) rest last where
  whole := rfl
  plain := fun other member => decomposes.plain other (List.mem_cons_of_mem _ member)
  named := fun other member => decomposes.named other (List.mem_cons_of_mem _ member)
  ended := decomposes.ended

theorem compose_append (references : List Reference) (last behind : List Char) :
    compose references (last ++ behind) = compose references last ++ behind := by
  induction references with
  | nil => rfl
  | cons reference rest ih => simp [compose, ih]

theorem Decomposes.append (decomposes : Decomposes text references last) {behind : List Char}
    (unmarked : '}' ∉ behind) : Decomposes (text ++ behind) references (last ++ behind) where
  whole := by rw [compose_append, decomposes.whole]
  plain := decomposes.plain
  named := decomposes.named
  ended := not_closed_append decomposes.ended unmarked

theorem exists_decomposes (text : List Char) :
    ∃ references last, Decomposes text references last := by
  rcases not_closed_or_reference text with ended | ⟨before, name, after, split, plain, named⟩
  · exact ⟨[], text, rfl, nofun, nofun, ended⟩
  · have shorter : after.length < text.length := by
      rw [split]
      simp
      omega
    obtain ⟨references, last, later⟩ := exists_decomposes after
    refine ⟨⟨before, name⟩ :: references, last, ?_, ?_, ?_, later.ended⟩
    · rw [split, compose, ← later.whole]
    · exact List.forall_mem_cons.mpr ⟨plain, later.plain⟩
    · exact List.forall_mem_cons.mpr ⟨named, later.named⟩
termination_by text.length

theorem clear_of_notMem {name : List Char} (named : '}' ∉ name) :
    ∀ c ∈ name, (c == '}') = false :=
  fun _ member => beq_false_of_ne fun same => named (same ▸ member)

theorem reference_unique {reference reference' : Reference} {rest rest' : List Char}
    (plain : ¬ ['$', '{'] <:+: reference.before) (plain' : ¬ ['$', '{'] <:+: reference'.before)
    (named : '}' ∉ reference.name) (named' : '}' ∉ reference'.name)
    (same : reference.before ++ '$' :: '{' :: (reference.name ++ '}' :: rest) =
      reference'.before ++ '$' :: '{' :: (reference'.name ++ '}' :: rest')) :
    reference = reference' ∧ rest = rest' := by
  have lone : '$' ∉ ['{'] := by decide
  have opened := Text.splitAtMark?_append lone plain (reference.name ++ '}' :: rest)
  have opened' := Text.splitAtMark?_append lone plain' (reference'.name ++ '}' :: rest')
  obtain ⟨before, behind⟩ := Prod.mk.inj (Option.some.inj
    (opened.symm.trans ((congrArg _ same).trans opened')))
  have closed := Text.splitAtFirst?_append (clear_of_notMem named) (beq_self_eq_true '}') rest
  have closed' := Text.splitAtFirst?_append (clear_of_notMem named') (beq_self_eq_true '}') rest'
  obtain ⟨name, later⟩ := Prod.mk.inj (Option.some.inj
    (closed.symm.trans ((congrArg _ behind).trans closed')))
  exact ⟨Reference.ext before name, later⟩

theorem Decomposes.unique (decomposes : Decomposes text references last)
    (decomposes' : Decomposes text references' last') :
    references = references' ∧ last = last' := by
  induction references generalizing text references' with
  | nil =>
    have plain := decomposes.whole
    cases references' with
    | nil => exact ⟨rfl, plain.symm.trans decomposes'.whole⟩
    | cons reference rest =>
      have closed : Closed last := ⟨_, _, _, plain.symm.trans decomposes'.whole⟩
      exact absurd closed decomposes.ended
  | cons reference rest ih =>
    cases references' with
    | nil =>
      have closed : Closed last' := ⟨_, _, _, decomposes'.whole.symm.trans decomposes.whole⟩
      exact absurd closed decomposes'.ended
    | cons reference' rest' =>
      obtain ⟨same, behind⟩ := reference_unique
        (decomposes.plain _ List.mem_cons_self) (decomposes'.plain _ List.mem_cons_self)
        (decomposes.named _ List.mem_cons_self) (decomposes'.named _ List.mem_cons_self)
        (decomposes.whole.symm.trans decomposes'.whole)
      obtain ⟨others, ends⟩ := ih decomposes.tail (behind ▸ decomposes'.tail)
      exact ⟨List.cons_eq_cons.mpr ⟨same, others⟩, ends⟩

end Decompositions

section Passes

variable {lookup : String → Option String} {name before text last : List Char}
  {references : List Reference}

theorem substitute_eq (lookup : String → Option String) (name : List Char) :
    substitute lookup name = valueOf lookup name := by
  cases name with
  | nil => rfl
  | cons c rest =>
    rw [substitute, valueOf, if_neg (by simp), if_neg (by simp)]
    cases lookup (String.ofList (c :: rest)) <;> rfl

theorem expandFrom_name (named : '}' ∉ name) (read rest : List Char) :
    expandFrom lookup (some read) (name ++ '}' :: rest) =
      valueOf lookup (read.reverse ++ name) ++ expandFrom lookup none rest := by
  -- What has been read of the name stands in `read` from its end.
  induction name generalizing read with
  | nil => simp [expandFrom, substitute_eq]
  | cons c name ih =>
    obtain ⟨other, later⟩ := not_or.mp (List.mem_cons.not.mp named)
    rw [List.cons_append, expandFrom, if_neg (Ne.symm other), ih later]
    simp

theorem expandFrom_unclosed (unmarked : '}' ∉ text) (read : List Char) :
    expandFrom lookup (some read) text = '$' :: '{' :: (read.reverse ++ text) := by
  induction text generalizing read with
  | nil => simp [expandFrom]
  | cons c rest ih =>
    obtain ⟨other, later⟩ := not_or.mp (List.mem_cons.not.mp unmarked)
    rw [expandFrom, if_neg (Ne.symm other), ih later]
    simp

theorem expandFrom_cons {c : Char} {rest : List Char} (plain : ¬ ['$', '{'] <+: c :: rest) :
    expandFrom lookup none (c :: rest) = c :: expandFrom lookup none rest := by
  apply expandFrom.eq_4
  rintro behind rfl rfl
  exact plain ⟨behind, rfl⟩

theorem expandFrom_plain (plain : ¬ ['$', '{'] <:+: text) :
    expandFrom lookup none text = text := by
  induction text with
  | nil => rfl
  | cons c rest ih =>
    have here : ¬ ['$', '{'] <+: c :: rest := fun begins => plain begins.isInfix
    rw [expandFrom_cons here, ih fun inside => plain (List.infix_cons inside)]

theorem expandFrom_opening (plain : ¬ ['$', '{'] <:+: before) (rest : List Char) :
    expandFrom lookup none (before ++ '$' :: '{' :: rest) =
      before ++ expandFrom lookup (some []) rest := by
  induction before with
  | nil => rfl
  | cons c before ih =>
    have here : ¬ ['$', '{'] <+: c :: (before ++ '$' :: '{' :: rest) := by
      -- No opening goes from `before` into the one behind it.
      intro begins
      exact plain (Text.prefix_of_lone (by decide) (List.cons_ne_nil c before) begins).isInfix
    rw [List.cons_append, expandFrom_cons here, ih fun inside => plain (List.infix_cons inside)]
    rfl

theorem expandFrom_reference (plain : ¬ ['$', '{'] <:+: before) (named : '}' ∉ name)
    (rest : List Char) :
    expandFrom lookup none (before ++ '$' :: '{' :: (name ++ '}' :: rest)) =
      before ++ (valueOf lookup name ++ expandFrom lookup none rest) := by
  rw [expandFrom_opening plain, expandFrom_name named]
  rfl

theorem expandFrom_of_not_closed (unclosed : ¬ Closed text) :
    expandFrom lookup none text = text := by
  rcases Text.unmarked_or_first '$' ['{'] text with plain | ⟨before, after, rfl, plain⟩
  · exact expandFrom_plain plain
  · have unmarked : '}' ∉ after := fun closes => unclosed ((closed_iff_mem plain).mpr closes)
    have opened : before ++ ('$' :: ['{'] ++ after) = before ++ '$' :: '{' :: after := rfl
    rw [opened, expandFrom_opening plain, expandFrom_unclosed unmarked]
    rfl

theorem Decomposes.expandFrom_eq (decomposes : Decomposes text references last) :
    expandFrom lookup none text = resolve lookup references last := by
  induction references generalizing text with
  | nil =>
    rw [decomposes.whole]
    exact expandFrom_of_not_closed decomposes.ended
  | cons reference rest ih =>
    rw [decomposes.whole, compose, expandFrom_reference
      (decomposes.plain _ List.mem_cons_self) (decomposes.named _ List.mem_cons_self),
      ih decomposes.tail]
    rfl

theorem resolve_append (references : List Reference) (last behind : List Char) :
    resolve lookup references (last ++ behind) = resolve lookup references last ++ behind := by
  induction references with
  | nil => rfl
  | cons reference rest ih => simp [resolve, ih]

theorem expandFrom_append {behind : List Char} (unmarked : '}' ∉ behind) (front : List Char) :
    expandFrom lookup none (front ++ behind) = expandFrom lookup none front ++ behind := by
  obtain ⟨references, last, decomposes⟩ := exists_decomposes front
  rw [(decomposes.append unmarked).expandFrom_eq, decomposes.expandFrom_eq, resolve_append]

end Passes

end WorkspaceServers.Config
