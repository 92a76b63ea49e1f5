import DebugConsole.Screen
import Mathlib.Data.List.Basic
import Mathlib.Data.List.Induction

/-!
# Expiry of screen messages

A tick goes through the messages from the last to the first and takes out those whose time is over.
It leaves what ageing all messages and then leaving out the expired ones leaves, so the fate of a
message depends on its own seconds and on the ticks after it was pushed, and on no other message.
-/

namespace DebugConsole

/-! ### The time of a message -/

/-- What is left of a duration after ticks, each taken off by itself. -/
def remainingAfter (duration : Float32) (deltas : List Float32) : Float32 :=
  deltas.foldl (· - ·) duration

/-- No tick so far has left what is no number or is below zero. -/
def Lasts (duration : Float32) (deltas : List Float32) : Prop :=
  ∀ k < deltas.length, (remainingAfter duration (deltas.take (k + 1))).isNaN = false ∧
    ¬ remainingAfter duration (deltas.take (k + 1)) < 0

instance (duration : Float32) (deltas : List Float32) : Decidable (Lasts duration deltas) :=
  inferInstanceAs (Decidable (∀ k < deltas.length, _ ∧ ¬ _))

lemma expired_eq_false_iff {remaining : Float32} :
    expired remaining = false ↔ remaining.isNaN = false ∧ ¬ remaining < 0 := by
  simp [expired]

lemma lasts_cons {duration dt : Float32} {deltas : List Float32} :
    Lasts duration (dt :: deltas) ↔
      expired (duration - dt) = false ∧ Lasts (duration - dt) deltas := by
  rw [expired_eq_false_iff]
  exact Nat.forall_lt_succ_left

namespace ScreenMessage

/-- The message after ticks, unless one of them has ended its time. -/
def after (deltas : List Float32) (m : ScreenMessage) : Option ScreenMessage :=
  if Lasts m.remaining deltas then
    some { m with remaining := remainingAfter m.remaining deltas }
  else none

lemma after_nil (m : ScreenMessage) : m.after [] = some m :=
  if_pos fun _ hk => absurd hk (Nat.not_lt_zero _)

lemma after_cons (dt : Float32) (deltas : List Float32) (m : ScreenMessage) :
    m.after (dt :: deltas)
      = if expired (m.aged dt).remaining then none else (m.aged dt).after deltas := by
  unfold after
  by_cases h : expired (m.aged dt).remaining = true
  · rw [if_pos h, if_neg]
    intro hlasts
    exact absurd (lasts_cons.mp hlasts).1 (by simpa [aged] using h)
  · rw [if_neg h]
    have hlasts : Lasts m.remaining (dt :: deltas) ↔ Lasts (m.aged dt).remaining deltas := by
      rw [lasts_cons]
      exact and_iff_right (by simpa [aged] using h)
    simp only [hlasts]
    rfl

/-- Of a message that is gone, later ticks find nothing. -/
lemma after_append (deltas more : List Float32) (m : ScreenMessage) :
    m.after (deltas ++ more) = (m.after deltas).bind (after more) := by
  induction deltas generalizing m with
  | nil => rw [List.nil_append, after_nil, Option.bind_some]
  | cons dt deltas ih =>
    rw [List.cons_append, after_cons, after_cons, ih]
    split <;> rfl

end ScreenMessage

namespace Screen

/-! ### One tick -/

/-- The messages some seconds later, without those whose time is then over. -/
def survivors (dt : Float32) (ms : List ScreenMessage) : List ScreenMessage :=
  (ms.map (.aged dt)).filter fun m => !expired m.remaining

lemma survivors_append (dt : Float32) (ms more : List ScreenMessage) :
    survivors dt (ms ++ more) = survivors dt ms ++ survivors dt more := by
  rw [survivors, List.map_append, List.filter_append]
  rfl

/-- A message is aged or taken out, and all others stay. -/
lemma ageAt?_length (dt : Float32) (before : List ScreenMessage) (m : ScreenMessage)
    (after : List ScreenMessage) :
    ageAt? dt before.length (before ++ m :: after)
      = some (before ++ survivors dt [m] ++ after) := by
  rw [ageAt?, List.getElem?_append_right (Nat.le_refl _), Nat.sub_self, List.getElem?_cons_zero,
    Option.map_some]
  by_cases h : expired (m.aged dt).remaining = true
  · simp [survivors, h, List.eraseIdx_append_of_length_le]
  · simp [survivors, h]

/-- The messages behind a bound have been aged before, and those below it are still to be aged. -/
lemma ageBelow?_length (dt : Float32) (before after : List ScreenMessage) :
    ageBelow? dt before.length (before ++ after) = some (survivors dt before ++ after) := by
  induction before using List.reverseRecOn generalizing after with
  | nil => rfl
  | append_singleton before m ih =>
    rw [List.length_append, List.length_singleton, ageBelow?, List.append_assoc,
      List.singleton_append, ageAt?_length, Option.bind_some, List.append_assoc, ih,
      survivors_append, List.append_assoc]

lemma ticked?_eq (s : Screen) (dt : Float32) : s.ticked? dt = some (survivors dt s.messages) := by
  simpa [ticked?] using ageBelow?_length dt s.messages []

@[simp] lemma messages_tick (s : Screen) (dt : Float32) :
    (s.tick dt).messages = survivors dt s.messages := by
  rw [tick, ticked?_eq, Option.getD_some]

lemma not_expired_of_mem_survivors {dt : Float32} {ms : List ScreenMessage} {m : ScreenMessage}
    (h : m ∈ survivors dt ms) : m.remaining.isNaN = false ∧ ¬ m.remaining < 0 := by
  have hexpired := (List.mem_filter.mp h).2
  exact expired_eq_false_iff.mp (by simpa using hexpired)

/-- A tick is the first of the ticks that a message passes. -/
lemma filterMap_survivors (dt : Float32) (deltas : List Float32) (ms : List ScreenMessage) :
    (survivors dt ms).filterMap (ScreenMessage.after deltas)
      = ms.filterMap (ScreenMessage.after (dt :: deltas)) := by
  rw [survivors, List.filterMap_filter, List.filterMap_map]
  congr 1
  funext m
  rw [Function.comp_apply, ScreenMessage.after_cons]
  cases expired (m.aged dt).remaining <;> rfl

/-! ### Runs -/

/-- What may be done to a screen. -/
inductive Op where
  | push (text : String) (duration : Float32) (style : TextStyle)
  | tick (dt : Float32)

def apply (s : Screen) : Op → Screen
  | .push text duration style => s.push text duration style
  | .tick dt                  => s.tick dt

def applyAll (s : Screen) (ops : List Op) : Screen := ops.foldl apply s

@[simp] lemma applyAll_cons (s : Screen) (op : Op) (ops : List Op) :
    s.applyAll (op :: ops) = (s.apply op).applyAll ops := rfl

@[simp] lemma applyAll_append (s : Screen) (ops more : List Op) :
    s.applyAll (ops ++ more) = (s.applyAll ops).applyAll more := List.foldl_append

/-- The seconds of the ticks in a run, tick by tick. -/
def deltas : List Op → List Float32
  | []              => []
  | .push .. :: ops => deltas ops
  | .tick dt :: ops => dt :: deltas ops

/-- The messages that a run pushes, in order, each with the seconds of the ticks after it. -/
def pushed : List Op → List (ScreenMessage × List Float32)
  | []                               => []
  | .push text duration style :: ops =>
      ({ text, remaining := duration, style }, deltas ops) :: pushed ops
  | .tick _ :: ops                   => pushed ops

/-- What is left of the messages that a run pushes. -/
def arrived (ops : List Op) : List ScreenMessage := (pushed ops).filterMap fun p => p.1.after p.2

lemma arrived_push (text : String) (duration : Float32) (style : TextStyle) (ops : List Op) :
    arrived (.push text duration style :: ops)
      = (ScreenMessage.after (deltas ops) ⟨text, duration, style⟩).toList ++ arrived ops := by
  rw [arrived, pushed, List.filterMap_eq_flatMap_toList, List.flatMap_cons, arrived,
    List.filterMap_eq_flatMap_toList]

lemma filterMap_push (deltas : List Float32) (s : Screen) (text : String) (duration : Float32)
    (style : TextStyle) :
    (s.push text duration style).messages.filterMap (ScreenMessage.after deltas)
      = s.messages.filterMap (ScreenMessage.after deltas)
        ++ (ScreenMessage.after deltas ⟨text, duration, style⟩).toList := by
  rw [messages_push, List.filterMap_append, List.filterMap_eq_flatMap_toList _ [_],
    List.flatMap_singleton]

/-- A run leaves what is left of the messages there were, and behind them what is left of those it
pushes. -/
theorem messages_applyAll (s : Screen) (ops : List Op) :
    (s.applyAll ops).messages
      = s.messages.filterMap (ScreenMessage.after (deltas ops)) ++ arrived ops := by
  induction ops generalizing s with
  | nil =>
    have hall : s.messages.filterMap (ScreenMessage.after []) = s.messages := by
      rw [funext ScreenMessage.after_nil, List.filterMap_some]
    rw [deltas, hall]
    exact (List.append_nil _).symm
  | cons op ops ih =>
    rw [applyAll_cons, ih]
    cases op with
    | push text duration style =>
      rw [apply, filterMap_push, arrived_push, deltas, List.append_assoc]
    | tick dt =>
      rw [apply, messages_tick, filterMap_survivors]
      rfl

/-! ### Expiry -/

/-- How the messages of a screen expire in a run of pushes and ticks on a screen without any. -/
structure Expires (ops : List Op) (s : Screen) : Prop where
  /-- The messages stand in the order in which they were pushed. Each is there if no tick since its
  push has ended its time, and it shows its duration less these ticks. -/
  messages : s.messages = (pushed ops).filterMap fun p => p.1.after p.2
  /-- A message that is gone stays gone. -/
  gone     : ∀ m later more, ScreenMessage.after later m = none →
    ScreenMessage.after (later ++ more) m = none
  /-- Without one of the pushes, the messages differ by what is left of that message. -/
  others   : ∀ before text duration style later,
    ops = before ++ .push text duration style :: later → ∃ older newer,
      (({} : Screen).applyAll (before ++ later)).messages = older ++ newer ∧
        s.messages = older ++ (ScreenMessage.after (deltas later) ⟨text, duration, style⟩).toList
          ++ newer
  /-- The pass in place stays within the messages, and it leaves what ageing all of them and then
  leaving out the expired ones leaves. -/
  inPlace  : ∀ dt, s.ticked? dt = some (survivors dt s.messages)
  ticked   : ∀ dt, (s.tick dt).messages = survivors dt s.messages
  /-- After a tick no time is over. -/
  current  : ∀ dt, ∀ m ∈ (s.tick dt).messages, m.remaining.isNaN = false ∧ ¬ m.remaining < 0

theorem expires_applyAll (ops : List Op) : Expires ops (({} : Screen).applyAll ops) := by
  constructor
  case messages => exact messages_applyAll {} ops
  case gone =>
    intro m later more hgone
    rw [ScreenMessage.after_append, hgone, Option.bind_none]
  case others =>
    rintro before text duration style later rfl
    set s := ({} : Screen).applyAll before
    refine ⟨s.messages.filterMap (ScreenMessage.after (deltas later)), arrived later, ?_, ?_⟩
    · rw [applyAll_append, messages_applyAll]
    · rw [applyAll_append, applyAll_cons, messages_applyAll, apply, filterMap_push]
  case inPlace => exact fun dt => ticked?_eq _ dt
  case ticked => exact fun dt => messages_tick _ dt
  case current =>
    intro dt m hm
    rw [messages_tick] at hm
    exact not_expired_of_mem_survivors hm

/-- Only the message whose seconds are a number, and more than the tick takes, is left. -/
example : ((({} : Screen).applyAll [.push "short" 0.125 .plain, .push "long" 5 .plain,
    .push "none" (0 / 0) .plain, .tick 0.25]).messages.map (·.text)) = ["long"] := by decide

end Screen

end DebugConsole
