import ErrorWording.Output
import ErrorWording.Proofs.Cutoff

set_option autoImplicit false

namespace ErrorWording

namespace Reply

/-- The replies up to the one that made a text or a call fail, which they follow. -/
inductive Stops : List Reply → List Reply → Fault → Prop where
  | failed (used after : List Reply) (f : Fault) (lasting : f.kind ≠ .interrupted) :
      Stops (used ++ .fails f :: after) after f
  | idle (used after : List Reply) : Stops (used ++ .takes 0 :: after) after .nothingTaken

structure Handing (replies : List Reply) (bytes : Bytes) (handed : Handed) : Prop where
  whole : handed.taken ++ handed.left = bytes
  suffix : handed.replies <:+ replies
  finished : handed.fault = none → handed.left = [] ∨ handed.replies = []
  stopped : ∀ f, handed.fault = some f →
    handed.left ≠ [] ∧ Stops replies handed.replies f

/-- No call is refused, though it may take less than it is offered. -/
def Willing (replies : List Reply) : Prop :=
  ∀ reply ∈ replies, ∃ n, reply = .takes (n + 1)

theorem stops_earlier (before replies after : List Reply) (f : Fault)
    (stops : Stops replies after f) : Stops (before ++ replies) after f := by
  cases stops with
  | failed used _ _ lasting =>
      rw [← List.append_assoc]
      exact .failed (before ++ used) after f lasting
  | idle used =>
      rw [← List.append_assoc]
      exact .idle (before ++ used) after

theorem handing_next (reply : Reply) (replies : List Reply) (front bytes : Bytes) (handed : Handed)
    (rest : Handing replies bytes handed) :
    Handing (reply :: replies) (front ++ bytes) { handed with taken := front ++ handed.taken } := by
  refine ⟨?_, rest.suffix.trans (List.suffix_cons reply replies), rest.finished, ?_⟩
  · rw [← rest.whole, List.append_assoc]
  · intro f failed
    obtain ⟨present, stops⟩ := rest.stopped f failed
    exact ⟨present, stops_earlier [reply] replies handed.replies f stops⟩

theorem handing_stopped (reply : Reply) (replies : List Reply) (b : UInt8) (rest : Bytes)
    (f : Fault) (stops : Stops (reply :: replies) replies f) :
    Handing (reply :: replies) (b :: rest) ⟨[], b :: rest, replies, some f⟩ := by
  refine ⟨rfl, List.suffix_cons reply replies, ?_, ?_⟩
  · intro none
    cases none
  · intro g same
    cases same
    exact ⟨List.cons_ne_nil b rest, stops⟩

theorem hand_handing (replies : List Reply) (bytes : Bytes) :
    Handing replies bytes (hand replies bytes) := by
  fun_induction hand replies bytes with
  | case1 replies => exact ⟨rfl, List.suffix_rfl, fun _ => .inl rfl, by simp⟩
  | case2 b rest => exact ⟨rfl, List.suffix_rfl, fun _ => .inr rfl, by simp⟩
  | case3 replies b rest => exact handing_stopped _ _ b rest _ (.idle [] replies)
  | case4 n replies b rest later ih =>
      have next := handing_next (.takes (n + 1)) replies (b :: rest.take n) _ _ ih
      rwa [List.cons_append, List.take_append_drop] at next
  | case5 f replies b rest again ih => exact handing_next (.fails f) replies [] _ _ ih
  | case6 f replies b rest lasting =>
      exact handing_stopped _ _ b rest f (.failed [] replies f lasting)

theorem willing_unstopped (replies after : List Reply) (f : Fault) (willing : Willing replies) :
    ¬ Stops replies after f := by
  intro stops
  cases stops with
  | failed used _ _ lasting =>
      obtain ⟨n, same⟩ := willing (.fails f) (by simp)
      cases same
  | idle used =>
      obtain ⟨n, same⟩ := willing (.takes 0) (by simp)
      cases same

theorem willing_suffix (replies after : List Reply) (suffix : after <:+ replies)
    (willing : Willing replies) : Willing after :=
  fun reply member => willing reply (suffix.subset member)

theorem settle_suffix (replies : List Reply) : (settle replies).1 <:+ replies := by
  fun_induction settle replies with
  | case1 => exact List.suffix_rfl
  | case2 most replies => exact List.suffix_cons _ _
  | case3 f replies again ih => exact ih.trans (List.suffix_cons _ _)
  | case4 f replies lasting => exact List.suffix_cons _ _

theorem settle_willing (replies : List Reply) (willing : Willing replies) :
    (settle replies).2 = none := by
  cases replies with
  | nil => rfl
  | cons reply rest =>
      obtain ⟨n, rfl⟩ := willing reply List.mem_cons_self
      rfl

end Reply

namespace Output

structure Took (before after : Output) (part : Bytes) : Prop where
  outlet : after.outlet = before.outlet.take part
  replies : after.replies <:+ before.replies

/-- Why the output stopped: a reply, or it has become an outlet that takes no more. -/
inductive Refuses (before after : Output) : Halt → Prop where
  | reply (f : Fault) (stops : Reply.Stops before.replies after.replies f) :
      Refuses before after (.refused f)
  | outlet (none : after.replies = []) (full : after.outlet.bound = some 0) :
      Refuses before after after.outlet.halt

inductive Offered (before : Output) (text : Bytes) : Output × Option Halt → Prop where
  | whole (after : Output) (took : Took before after text) : Offered before text (after, none)
  | stopped (after : Output) (part : Bytes) (halt : Halt) (begins : part <+: text)
      (short : part ≠ text) (took : Took before after part) (refuses : Refuses before after halt) :
      Offered before text (after, some halt)

theorem took_refl (o : Output) : Took o o [] :=
  ⟨(Outlet.take_nil _).symm, List.suffix_rfl⟩

theorem took_trans (before middle after : Output) (a b : Bytes) (first : Took before middle a)
    (second : Took middle after b) : Took before after (a ++ b) := by
  refine ⟨?_, second.replies.trans first.replies⟩
  rw [second.outlet, first.outlet, Outlet.take_take]

theorem took_written (before after : Output) (part : Bytes) (took : Took before after part) :
    after.written = before.written ++ part := by
  rw [written, took.outlet, Outlet.written_take]
  rfl

theorem refuses_earlier (before middle after : Output) (halt : Halt)
    (replies : middle.replies <:+ before.replies) (refuses : Refuses middle after halt) :
    Refuses before after halt := by
  cases refuses with
  | reply f stops =>
      obtain ⟨used, parts⟩ := replies
      refine .reply f ?_
      rw [← parts]
      exact Reply.stops_earlier used _ _ f stops
  | outlet none full => exact .outlet none full

theorem offer_offered (o : Output) (bytes : Bytes) : Offered o bytes (o.offer bytes) := by
  have handing := Reply.hand_handing o.replies bytes
  unfold offer
  generalize Reply.hand o.replies bytes = handed at handing
  obtain ⟨taken, left, replies, fault⟩ := handed
  obtain rfl : taken ++ left = bytes := handing.whole
  cases fault with
  | some f =>
      obtain ⟨present, stops⟩ := handing.stopped f rfl
      refine .stopped _ taken _ (List.prefix_append taken left) ?_ ⟨rfl, handing.suffix⟩
        (.reply f stops)
      intro same
      exact present (List.self_eq_append_right.mp same)
  | none =>
      -- All replies are used up, so the outlet is offered what is left.
      have rest := (o.outlet.take taken).offer_offered left
      dsimp only
      generalize (o.outlet.take taken).offer left = outcome at rest
      cases rest with
      | whole => exact .whole _ ⟨Outlet.take_take _ _ _, handing.suffix⟩
      | stopped part begins short full =>
          have present : left ≠ [] := by
            rintro rfl
            exact short (List.prefix_nil.mp begins)
          have unanswered : replies = [] := (handing.finished rfl).resolve_left present
          refine .stopped _ (taken ++ part) _ ((List.prefix_append_right_inj taken).mpr begins) ?_
            ⟨Outlet.take_take _ _ _, handing.suffix⟩ (.outlet unanswered full)
          intro same
          exact short (List.append_cancel_left same)

theorem offer_all_offered (o : Output) (pieces : List Bytes) :
    Offered o pieces.flatten (o.offerAll pieces) := by
  induction pieces generalizing o with
  | nil => exact .whole o (took_refl o)
  | cons bytes rest ih =>
      have first := o.offer_offered bytes
      rw [offerAll, List.flatten_cons]
      generalize o.offer bytes = outcome at first ⊢
      cases first with
      | stopped after part halt begins short took refuses =>
          refine .stopped after part halt (begins.trans (List.prefix_append _ _)) ?_ took refuses
          rintro rfl
          exact short (begins.eq_of_length_le (by simp))
      | whole after took =>
          dsimp only
          have later := ih after
          generalize after.offerAll rest = outcome at later ⊢
          cases later with
          | whole last took' => exact .whole last (took_trans o after last _ _ took took')
          | stopped last part halt begins short took' refuses =>
              refine .stopped last (bytes ++ part) halt
                ((List.prefix_append_right_inj bytes).mpr begins) ?_
                (took_trans o after last _ _ took took')
                (refuses_earlier o after last halt took.replies refuses)
              intro same
              exact short (List.append_cancel_left same)

theorem offer_all_whole (o : Output) (pieces : List Bytes) (whole : (o.offerAll pieces).2 = none) :
    (o.offerAll pieces).1.written = o.written ++ pieces.flatten := by
  have offered := o.offer_all_offered pieces
  generalize o.offerAll pieces = outcome at offered whole
  cases offered with
  | whole after took => exact took_written o after _ took
  | stopped => cases whole

theorem offer_all_append (o : Output) (a b : List Bytes) :
    o.offerAll (a ++ b) =
      match o.offerAll a with
      | (after, some halt) => (after, some halt)
      | (after, none) => after.offerAll b := by
  induction a generalizing o with
  | nil => rfl
  | cons bytes rest ih =>
      rw [List.cons_append, offerAll, offerAll]
      rcases o.offer bytes with ⟨after, halt⟩
      cases halt with
      | some halt => rfl
      | none => exact ih after

theorem offer_outlet (o : Outlet) (bytes : Bytes) :
    offer o bytes = (↑(o.offer bytes).1, (o.offer bytes).2) := by
  simp [offer, Reply.hand_unanswered]

theorem offer_all_outlet (o : Outlet) (pieces : List Bytes) :
    offerAll o pieces = (↑(o.offer pieces.flatten).1, (o.offer pieces.flatten).2) := by
  induction pieces generalizing o with
  | nil => simp [offerAll]
  | cons bytes rest ih =>
      rw [offerAll, offer_outlet, List.flatten_cons, Outlet.offer_append]
      rcases o.offer bytes with ⟨after, halt⟩
      cases halt with
      | some halt => rfl
      | none => exact ih after

theorem flush_took (o : Output) : Took o o.flush.1 [] := by
  obtain ⟨replies, outlet⟩ := o
  cases replies with
  | nil => exact took_refl _
  | cons reply rest =>
      cases reply <;> exact ⟨(Outlet.take_nil _).symm, List.suffix_cons _ _⟩

@[simp] theorem written_flush (o : Output) : o.flush.1.written = o.written := by
  rw [took_written o _ [] o.flush_took, List.append_nil]

structure TakesAll (o : Output) : Prop where
  willing : Reply.Willing o.replies
  outlet : o.outlet.TakesAll

theorem boundless_takes_all : boundless.TakesAll :=
  ⟨by simp [boundless, Reply.Willing], Outlet.boundless_takes_all⟩

theorem took_takes_all (before after : Output) (part : Bytes) (took : Took before after part)
    (takes : before.TakesAll) : after.TakesAll := by
  refine ⟨Reply.willing_suffix _ _ took.replies takes.willing, ?_⟩
  rw [took.outlet]
  exact Outlet.take_takes_all _ part takes.outlet

theorem takes_all_unrefusing (before after : Output) (part : Bytes) (halt : Halt)
    (took : Took before after part) (takes : before.TakesAll) : ¬ Refuses before after halt := by
  intro refuses
  cases refuses with
  | reply f stops => exact Reply.willing_unstopped _ _ f takes.willing stops
  | outlet _ full =>
      have later := (took_takes_all before after part took takes).outlet
      have room := Outlet.bound_zero after.outlet later.steady full
      rw [later.roomless] at room
      cases room

theorem offer_all_takes (o : Output) (pieces : List Bytes) (takes : o.TakesAll) :
    ∃ after, o.offerAll pieces = (after, none) ∧ after.TakesAll ∧
      after.written = o.written ++ pieces.flatten := by
  have offered := o.offer_all_offered pieces
  generalize o.offerAll pieces = outcome at offered
  cases offered with
  | whole after took =>
      exact ⟨after, rfl, took_takes_all o after _ took takes, took_written o after _ took⟩
  | stopped after part halt _ _ took refuses =>
      exact absurd refuses (takes_all_unrefusing o after part halt took takes)

theorem flush_takes (o : Output) (takes : o.TakesAll) :
    ∃ after, o.flush = (after, none) ∧ after.TakesAll ∧ after.written = o.written := by
  have settled := took_takes_all o _ [] o.flush_took takes
  refine ⟨o.flush.1, Prod.ext rfl ?_, settled, o.written_flush⟩
  obtain ⟨replies, outlet⟩ := o
  cases replies with
  | nil =>
      have quiet : outlet.flushFault = none := takes.outlet.flushes
      simp [flush, Outlet.flush, quiet]
  | cons reply rest =>
      obtain ⟨n, rfl⟩ := takes.willing reply List.mem_cons_self
      rfl

end Output

end ErrorWording
