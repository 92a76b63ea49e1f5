import DebugConsole.Proofs.Session.Opening
import Mathlib.Data.List.Infix
import Mathlib.Data.List.TakeWhile

/-!
# The transcript of a session

A session draws one frame before its first line and one after each line, up to the first that
quits. A frame shows the console after the lines so far, with time passing once a line.
-/

namespace DebugConsole.Session

/-! ### Lines and frames -/

/-- Lines that are text, each with the seconds that have passed before its frame. -/
def typed (lines : List (String × Float32)) : List (Option String × Float32) :=
  lines.map fun (line, dt) => (some line, dt)

/-- No line ends the session. -/
def Staying (lines : List (String × Float32)) : Prop :=
  ∀ l ∈ lines, Console.quits l.1 = false

/-- The lines before the first that quits. -/
def untilQuit (lines : List (String × Float32)) : List (String × Float32) :=
  lines.takeWhile fun l => !Console.quits l.1

/-- The console after lines. -/
def after (c : Console DemoCommand) (lines : List (String × Float32)) : Console DemoCommand :=
  lines.foldl (fun c (line, dt) => ((c.handleLine facade line).tick facade dt).1) c

/-- The frames of the console after none, one, two and more of the lines. -/
def framesAfter (r : Renderer) (c : Console DemoCommand) (lines : List (String × Float32)) :
    List String :=
  lines.inits.map fun read => r.frame (after c read)

variable (r : Renderer) (c : Console DemoCommand)

lemma framesAfter_cons (line : String) (dt : Float32) (lines : List (String × Float32)) :
    framesAfter r c ((line, dt) :: lines) = r.frame c :: framesAfter r (step c line dt) lines := by
  simp only [framesAfter, List.inits_cons, List.map_cons, List.map_map]
  rfl

lemma length_framesAfter (lines : List (String × Float32)) :
    (framesAfter r c lines).length = lines.length + 1 := by
  rw [framesAfter, List.length_map, List.length_inits]

/-- Each frame shows the console after the lines before it. -/
lemma getElem?_framesAfter {lines : List (String × Float32)} {k : Nat} (hk : k ≤ lines.length) :
    (framesAfter r c lines)[k]? = some (r.frame (after c (lines.take k))) := by
  have htake : lines.inits[k]? = some (lines.take k) := by
    rw [List.getElem?_eq_getElem (by simpa using Nat.lt_succ_of_le hk), List.getElem_inits]
  rw [framesAfter, List.getElem?_map, htake, Option.map_some]

lemma staying_untilQuit (lines : List (String × Float32)) : Staying (untilQuit lines) := by
  intro l hl
  simpa using List.mem_takeWhile_imp hl

/-- If there are lines left, the first of them quits. -/
lemma exists_untilQuit (lines : List (String × Float32)) :
    lines = untilQuit lines ∨ ∃ line dt more, Console.quits line = true ∧
      lines = untilQuit lines ++ (line, dt) :: more := by
  have hsplit : lines = untilQuit lines ++ lines.dropWhile fun l => !Console.quits l.1 :=
    List.takeWhile_append_dropWhile.symm
  have hhead := List.head?_dropWhile_not (fun l : String × Float32 => !Console.quits l.1) lines
  cases hdrop : lines.dropWhile fun l => !Console.quits l.1 with
  | nil => exact .inl (by rwa [hdrop, List.append_nil] at hsplit)
  | cons l more =>
    rw [hdrop] at hsplit hhead
    exact .inr ⟨l.1, l.2, more, by simpa using hhead, hsplit⟩

/-! ### Runs -/

lemma frames_cons_of_not_quits {line : String} (h : Console.quits line = false) (dt : Float32)
    (lines : List (Option String × Float32)) :
    frames r c ((some line, dt) :: lines) =
      (r.frame c :: (frames r (step c line dt) lines).1, (frames r (step c line dt) lines).2) := by
  simp [frames, rest, h]

lemma frames_append {before : List (String × Float32)} (h : Staying before)
    (more : List (Option String × Float32)) :
    frames r c (typed before ++ more) =
      (framesAfter r c before ++ (rest r (after c before) more).1,
        (rest r (after c before) more).2) := by
  induction before generalizing c with
  | nil => rfl
  | cons l before ih =>
    obtain ⟨line, dt⟩ := l
    obtain ⟨hline, hbefore⟩ := List.forall_mem_cons.mp h
    have hcons := frames_cons_of_not_quits r c hline dt (typed before ++ more)
    rw [ih _ hbefore] at hcons
    rw [framesAfter_cons]
    exact hcons

lemma run_of_start {source : ConfigSource} {c : Console DemoCommand} (h : start source = .ok c)
    (lines : List (Option String × Float32)) :
    run r source lines =
      { output := String.join (frames r c lines).1 ++ if (frames r c lines).2 then "" else "\n"
        failed := (frames r c lines).2 } := by
  rw [run, h]

lemma typed_append (lines more : List (String × Float32)) :
    typed (lines ++ more) = typed lines ++ typed more := List.map_append

/-- The frames of lines without one that quits are those after each of them. -/
lemma frames_typed {lines : List (String × Float32)} (h : Staying lines) :
    frames r c (typed lines) = (framesAfter r c lines, false) := by
  have happend := frames_append r c h []
  rw [List.append_nil] at happend
  rw [happend, rest, List.append_nil]

/-- A line that quits ends the session like the end of the input, whatever comes after it. -/
lemma frames_quit {before : List (String × Float32)} (h : Staying before) {line : String}
    (hquit : Console.quits line = true) (dt : Float32) (more : List (Option String × Float32)) :
    frames r c (typed before ++ (some line, dt) :: more) = frames r c (typed before) := by
  rw [frames_append r c h, frames_typed r c h]
  simp [rest, hquit]

lemma frames_untilQuit (lines : List (String × Float32)) :
    frames r c (typed lines) = (framesAfter r c (untilQuit lines), false) := by
  have hsplit := exists_untilQuit lines
  have hstaying := staying_untilQuit lines
  generalize untilQuit lines = before at hsplit hstaying
  rcases hsplit with rfl | ⟨line, dt, more, hquit, rfl⟩
  · exact frames_typed r c hstaying
  · have hmore : typed ((line, dt) :: more) = (some line, dt) :: typed more := rfl
    rw [typed_append, hmore, frames_quit r c hstaying hquit, frames_typed r c hstaying]

/-! ### The contract -/

/-- What a session with an accepted configuration writes. -/
structure Transcribed (r : Renderer) (source : ConfigSource) (config : Config) : Prop where
  /-- The demo commands are accepted, and so the session opens. -/
  opens  : (∃ c, start source = .ok c) ↔ config.sentinel = none ∨ config.sentinel = some '/'
  /-- There is one frame before the first line and one after each line that does not quit. -/
  output : ∀ c, start source = .ok c → ∀ lines, run r source (typed lines) =
    { output := String.join (framesAfter r c (untilQuit lines)) ++ "\n", failed := false }
  count  : ∀ c lines, (framesAfter r c lines).length = lines.length + 1
  frame  : ∀ c lines k, k ≤ lines.length →
    (framesAfter r c lines)[k]? = some (r.frame (after c (lines.take k)))
  /-- What comes after the first line that quits does not matter, be it text or not. -/
  quit   : ∀ before line dt more, Staying before → Console.quits line = true →
    run r source (typed before ++ (some line, dt) :: more) = run r source (typed before)
  /-- More lines leave the frames of the lines before them as they are. -/
  goesOn : ∀ c, start source = .ok c → ∀ lines more, Staying lines →
    ∃ rest, (run r source (typed (lines ++ more))).output
      = String.join (framesAfter r c lines) ++ rest

theorem transcribed {source : ConfigSource} {config : Config}
    (accepted : Session.config source = .ok config) (r : Renderer) :
    Transcribed r source config := by
  constructor
  case opens =>
    rw [← exists_prepare_iff source config, start, accepted]
  case output =>
    intro c hstart lines
    rw [run_of_start r hstart, frames_untilQuit]
    rfl
  case count => exact length_framesAfter r
  case frame => exact fun c _ _ => getElem?_framesAfter r c
  case quit =>
    intro before line dt more hbefore hquit
    cases hstart : start source with
    | error e => simp only [run, hstart]
    | ok c => rw [run_of_start r hstart, run_of_start r hstart, frames_quit r c hbefore hquit]
  case goesOn =>
    intro c hstart lines more hlines
    rw [run_of_start r hstart, typed_append, frames_append r c hlines, String.join_append,
      String.append_assoc]
    exact ⟨_, rfl⟩

/-- Without a configuration file a session opens, and it ends at the first line that quits. -/
theorem transcribed_default :
    Session.config .default = .ok {} ∧ Transcribed { ansi := false } .default {} ∧
      (∃ c, start .default = .ok c) ∧
      untilQuit [("/echo hi", 1), (" :q ", 0), ("/echo more", 1)] = [("/echo hi", 1)] := by
  have haccepted : Session.config .default = .ok {} := rfl
  have htranscribed := transcribed haccepted { ansi := false }
  exact ⟨haccepted, htranscribed, htranscribed.opens.mpr (.inr rfl), by rfl⟩

end DebugConsole.Session
