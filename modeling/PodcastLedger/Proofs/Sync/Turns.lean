import Mathlib.Data.List.DropRight
import PodcastLedger.Proofs.Ledger.Table
import PodcastLedger.Store.Rows

/-!
# Turns of one podcast

A podcast is turned to a side as of a time, again and again, and each turn is answered by whether it
made a difference. `Podcast.turns_exact` says what any number of turns leave and answer: the side is
that of the last turn, the time is that of the last turn that made a difference, and the turns that
made none may as well be left out.
-/

namespace PodcastLedger.Podcast

variable {podcast : Podcast} {calls earlier later : List (Bool × Instant)} {side : Bool}
  {time : Instant}

/-- The podcast after a list of turns. -/
def after (podcast : Podcast) (calls : List (Bool × Instant)) : Podcast :=
  calls.foldl (fun podcast call => podcast.turn call.1 call.2) podcast

/-- The turns that were answered by that they made a difference. -/
def effective (podcast : Podcast) (calls : List (Bool × Instant)) : List (Bool × Instant) :=
  ((calls.zip (podcast.turns calls)).filter fun answered => answered.2.1).map Prod.fst

/-- The longest run of turns to one side at the end of a list. -/
def lastBlock (calls : List (Bool × Instant)) : List (Bool × Instant) :=
  match calls.getLast? with
  | none => []
  | some last => calls.rtakeWhile fun call => call.1 == last.1

/-- The podcasts of a table after a list of turns of the one under an id. -/
def turnedAt (podcasts : Table Podcast) (id : Int) (calls : List (Bool × Instant)) :
    Table Podcast :=
  calls.foldl
    (fun podcasts call =>
      podcasts.modify (fun entry => entry.id == id) (·.turn call.1 call.2))
    podcasts

/-! ## One turn more -/

/-- Without turns a podcast stays as it is. -/
@[simp] theorem after_nil : podcast.after [] = podcast := rfl

/-- The first turn comes before the others. -/
@[simp] theorem after_cons (call : Bool × Instant) (rest : List (Bool × Instant)) :
    podcast.after (call :: rest) = (podcast.turn call.1 call.2).after rest := rfl

/-- Turns that are made later are made on what the others leave. -/
theorem after_append (podcast : Podcast) (earlier later : List (Bool × Instant)) :
    podcast.after (earlier ++ later) = (podcast.after earlier).after later :=
  List.foldl_append

/-- Each turn is answered. -/
@[simp] theorem length_turns (podcast : Podcast) (calls : List (Bool × Instant)) :
    (podcast.turns calls).length = calls.length := by
  induction calls generalizing podcast with
  | nil => rfl
  | cons call rest ih => exact congrArg (· + 1) (ih _)

/-- The answers to turns made later are those that the podcast gives that the others leave. -/
theorem turns_append (podcast : Podcast) (earlier later : List (Bool × Instant)) :
    podcast.turns (earlier ++ later) =
      podcast.turns earlier ++ (podcast.after earlier).turns later := by
  induction earlier generalizing podcast with
  | nil => rfl
  | cons call rest ih => exact congrArg (List.cons _) (ih _)

/-- A turn is answered by whether the podcast was on the other side, and the podcast is on the side
of the turn then. -/
theorem turns_get (podcast : Podcast) (earlier later : List (Bool × Instant)) (side : Bool)
    (time : Instant) :
    (podcast.turns (earlier ++ (side, time) :: later))[earlier.length]? =
      some ((podcast.after earlier).subscribed != side,
        podcast.after (earlier ++ [(side, time)])) := by
  rw [turns_append, after_append, List.getElem?_append_right (length_turns _ _).le, length_turns,
    Nat.sub_self]
  rfl

/-- The podcast is on the side of the last turn. -/
theorem subscribed_after (podcast : Podcast) (calls : List (Bool × Instant)) :
    (podcast.after calls).subscribed = (calls.getLast?.map Prod.fst).getD podcast.subscribed := by
  cases calls using List.reverseRecOn with
  | nil => rfl
  | append_singleton calls call =>
      rw [after_append, List.getLast?_concat]
      exact subscribed_turn _ call.1 call.2

/-- The turns that make a difference after others are those that do so to what the others leave. -/
theorem effective_append (podcast : Podcast) (earlier later : List (Bool × Instant)) :
    podcast.effective (earlier ++ later) =
      podcast.effective earlier ++ (podcast.after earlier).effective later := by
  unfold effective
  rw [turns_append, List.zip_append (length_turns _ _).symm, List.filter_append, List.map_append]

/-- One turn makes a difference to a podcast that is on the other side. -/
theorem effective_singleton (podcast : Podcast) (call : Bool × Instant) :
    podcast.effective [call] = if podcast.subscribed = call.1 then [] else [call] := by
  by_cases hside : podcast.subscribed = call.1 <;> simp [effective, turns, hside]

/-! ## Turns that make no difference -/

/-- The turns that make a difference leave what all of them leave. -/
theorem after_effective (podcast : Podcast) (calls : List (Bool × Instant)) :
    podcast.after (podcast.effective calls) = podcast.after calls := by
  induction calls using List.reverseRecOn with
  | nil => rfl
  | append_singleton calls call ih =>
      rw [effective_append, after_append, after_append, ih, effective_singleton]
      split
      · next hsame => exact (turn_of_eq hsame call.2).symm
      · rfl

/-- The turns that make a difference are answered as they are among all. -/
theorem turns_effective (podcast : Podcast) (calls : List (Bool × Instant)) :
    podcast.turns (podcast.effective calls) =
      (podcast.turns calls).filter fun answer => answer.1 := by
  induction calls using List.reverseRecOn with
  | nil => rfl
  | append_singleton calls call ih =>
      rw [effective_append, turns_append, turns_append, ih, after_effective, List.filter_append,
        effective_singleton]
      congr 1
      by_cases hside : (podcast.after calls).subscribed = call.1 <;> simp [turns, hside]

/-! ## The time of the last change -/

/-- The podcast was updated at the time of the last turn that made a difference. -/
theorem updated_at_after (podcast : Podcast) (calls : List (Bool × Instant)) :
    (podcast.after calls).updatedAt =
      ((podcast.effective calls).getLast?.map Prod.snd).getD podcast.updatedAt := by
  induction calls using List.reverseRecOn with
  | nil => rfl
  | append_singleton calls call ih =>
      rw [after_append, effective_append, effective_singleton]
      split
      · next hsame =>
          rw [List.append_nil, ← ih]
          exact congrArg updatedAt (turn_of_eq hsame call.2)
      · next hother =>
          rw [List.getLast?_concat]
          exact congrArg updatedAt (if_neg hother)

/-- One turn more prolongs the last block if it is to the same side, and else begins a new one. -/
theorem last_block_concat (calls : List (Bool × Instant)) (call : Bool × Instant) :
    lastBlock (calls ++ [call]) =
      if calls.getLast?.map Prod.fst = some call.1 then lastBlock calls ++ [call] else [call] := by
  have hlast : lastBlock (calls ++ [call]) =
      (calls.rtakeWhile fun other => other.1 == call.1) ++ [call] := by
    unfold lastBlock
    rw [List.getLast?_concat]
    exact List.rtakeWhile_concat_pos _ _ _ (beq_self_eq_true call.1)
  rw [hlast]
  unfold lastBlock
  cases calls using List.reverseRecOn with
  | nil => rfl
  | append_singleton calls last =>
      rw [List.getLast?_concat, Option.map_some]
      by_cases hsame : last.1 = call.1
      · rw [if_pos (congrArg some hsame), ← hsame]
      · rw [if_neg fun heq => hsame (Option.some.inj heq),
          List.rtakeWhile_concat_neg _ _ _ (by simpa using hsame), List.nil_append]

/-- The last block of turns is not empty if there are any. -/
theorem last_block_ne_nil (hcalls : calls ≠ []) : lastBlock calls ≠ [] := by
  cases calls using List.reverseRecOn with
  | nil => exact absurd rfl hcalls
  | append_singleton calls call =>
      rw [last_block_concat]
      split <;> simp

/-- The last turn that made a difference, if any did, is the first one of the last block. -/
theorem last_effective_eq (podcast : Podcast) {calls : List (Bool × Instant)}
    (hany : podcast.effective calls ≠ []) :
    (podcast.effective calls).getLast? = (lastBlock calls).head? := by
  induction calls using List.reverseRecOn with
  | nil => exact absurd rfl hany
  | append_singleton calls call ih =>
      have hside := podcast.subscribed_after calls
      rw [effective_append, effective_singleton] at hany ⊢
      rw [last_block_concat]
      split at hany
      · next hsame =>
          rw [List.append_nil] at hany
          have hcalls : calls ≠ [] := by
            rintro rfl
            exact hany rfl
          -- The turn before was to the same side, so the block goes on.
          have hlast : calls.getLast?.map Prod.fst = some call.1 := by
            rw [List.getLast?_eq_some_getLast hcalls] at hside ⊢
            exact congrArg some (hside.symm.trans hsame)
          rw [if_pos hsame, if_pos hlast, List.append_nil, ih hany,
            List.head?_append_of_ne_nil _ (last_block_ne_nil hcalls)]
      · next hother =>
          have hlast : calls.getLast?.map Prod.fst ≠ some call.1 := by
            intro hlast
            rw [hlast] at hside
            exact hother hside
          rw [if_neg hother, if_neg hlast, List.getLast?_concat]
          rfl

/-! ## What never changes -/

/-- Turns change nothing but the side and the time. -/
theorem after_frame (podcast : Podcast) (calls : List (Bool × Instant)) :
    podcast.after calls =
      { podcast with
        subscribed := (podcast.after calls).subscribed
        updatedAt := (podcast.after calls).updatedAt } := by
  induction calls generalizing podcast with
  | nil => rfl
  | cons call rest ih =>
      rw [after_cons, ih]
      by_cases hsame : podcast.subscribed = call.1
      · rw [turn_of_eq hsame]
      · rw [turn, if_neg hsame]

/-- Of the podcasts of a table only the one under the id is turned, and it stays under the id. -/
theorem get_turned_at (podcasts : Table Podcast) (id other : Int)
    (calls : List (Bool × Instant)) :
    (turnedAt podcasts id calls).get? other =
      (podcasts.get? other).map fun entry =>
        if entry.id = id then ⟨entry.id, entry.row.after calls⟩ else entry := by
  induction calls generalizing podcasts with
  | nil => simp [turnedAt]
  | cons call rest ih =>
      refine (ih _).trans ?_
      rw [Table.get_modify, Option.map_map]
      refine congrArg (Option.map · _) (funext fun entry => ?_)
      by_cases hid : entry.id = id <;> simp [hid]

/-! ## Any number of turns -/

/-- What any turns of a podcast leave and answer, as of any times, and so what is left after each of
them. A turn is answered by whether its side is another one than before it, and leaves the podcast
on its side. The podcast was updated at the time of the last turn that made a difference, which is
the first one of the last block of turns to one side; if none did, the time is as it was. Without the
turns that made no difference the others leave and answer the same. Nothing but the side and the time
changes: not the address, the user or what is known about the podcast, nor the id under which it is
in a table, nor any podcast under another id. -/
theorem turns_exact (podcast : Podcast) (calls : List (Bool × Instant)) :
    (podcast.turns calls).length = calls.length ∧
    (∀ earlier side time later, earlier ++ (side, time) :: later = calls →
      let next := podcast.after (earlier ++ [(side, time)])
      (podcast.turns calls)[earlier.length]? =
          some ((podcast.after earlier).subscribed != side, next) ∧
        next.subscribed = side) ∧
    (podcast.after calls).updatedAt =
      ((podcast.effective calls).getLast?.map Prod.snd).getD podcast.updatedAt ∧
    (podcast.effective calls ≠ [] →
      (podcast.effective calls).getLast? = (lastBlock calls).head?) ∧
    podcast.after (podcast.effective calls) = podcast.after calls ∧
    podcast.turns (podcast.effective calls) =
      ((podcast.turns calls).filter fun answer => answer.1) ∧
    podcast.after calls =
      { podcast with
        subscribed := (podcast.after calls).subscribed
        updatedAt := (podcast.after calls).updatedAt } ∧
    ∀ (podcasts : Table Podcast) (id other : Int),
      (turnedAt podcasts id calls).get? other =
        (podcasts.get? other).map fun entry =>
          if entry.id = id then ⟨entry.id, entry.row.after calls⟩ else entry := by
  refine ⟨length_turns podcast calls, ?_, updated_at_after podcast calls,
    podcast.last_effective_eq, after_effective podcast calls, turns_effective podcast calls,
    after_frame podcast calls, fun podcasts id other => get_turned_at podcasts id other calls⟩
  rintro earlier side time later rfl
  refine ⟨turns_get podcast earlier later side time, ?_⟩
  rw [after_append]
  exact subscribed_turn _ side time

/-- Turns that repeat a side, with times that go back. -/
def turnsGoingBack : List (Bool × Instant) :=
  [(true, .ofUnix 50), (false, .ofUnix 70), (false, .ofUnix 90), (true, .ofUnix 30),
    (true, .ofUnix 80)]

/-- A podcast that is subscribed to is turned off and on again. The time is that of the turn back,
though a later one is given after it and others were given before. -/
theorem turns_going_back :
    let podcast : Podcast := ⟨1, "http://a.example/feed", none, none, none, true, .ofUnix 20⟩
    (podcast.turns turnsGoingBack).map Prod.fst = [false, true, false, true, false] ∧
      (lastBlock turnsGoingBack).head? = some (true, .ofUnix 30) ∧
      (podcast.after turnsGoingBack).updatedAt = .ofUnix 30 ∧
      podcast.after [(false, .ofUnix 70), (true, .ofUnix 30)] = podcast.after turnsGoingBack := by
  intro podcast
  obtain ⟨_, _, htime, hblock, hleave, _⟩ := turns_exact podcast turnsGoingBack
  have heffective :
      podcast.effective turnsGoingBack = [(false, .ofUnix 70), (true, .ofUnix 30)] := by
    decide
  rw [heffective] at htime hblock hleave
  exact ⟨by decide, (hblock (List.cons_ne_nil _ _)).symm, htime, hleave⟩

end PodcastLedger.Podcast
