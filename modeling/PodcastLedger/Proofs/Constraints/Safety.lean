import PodcastLedger.Proofs.Constraints.Accounts
import PodcastLedger.Proofs.Constraints.Refusals
import PodcastLedger.Proofs.Constraints.Uploads

/-!
# Requests under constraints

Requests carried out by guarded statements (`Guarded.perform`), on a store that refuses each statement
that breaks a constraint. A request leads from a store that meets the constraints to one that meets
them, so all reachable stores do (`Store.Reachable.constrained`). If texts and times can be carried,
no statement of a request is ever refused and no row is ever missing: the request succeeds, or fails
for what the user has caused (`Guarded.perform_within_constraints`).
-/

namespace PodcastLedger

namespace Store

/-- The same store with the same answer, but for the order in which ended subscriptions are told. -/
inductive SameAnswer : Store × Answer → Store × Answer → Prop where
  | same (result : Store × Answer) : SameAnswer result result
  | reordered {first second : Store × SubscriptionUpdate} (hsame : SameUpToOrder first second) :
      SameAnswer (first.1, .subscriptionUpdate first.2) (second.1, .subscriptionUpdate second.2)

variable {store : Store} {order : List (Entry Podcast) → List (Entry Podcast)}

/-- The same answer comes with the same store. -/
theorem SameAnswer.store_eq {first second : Store × Answer} (hsame : SameAnswer first second) :
    first.1 = second.1 := by
  cases hsame with
  | same => rfl
  | reordered hsame => exact hsame.1

/-- Outcomes that are the same have the same answer. -/
theorem same_answer_of_eq {first second : Except Failure (Store × Answer)} (heq : first = second) :
    Agree SameAnswer first second :=
  heq ▸ (Agree.refl first).mono fun result _ hsame => hsame ▸ .same result

/-- What a procedure writes is told as an answer. -/
theorem whole_answer {Result : Type} (answer : Result → Answer)
    (procedure : Procedure Failure Result) (store : Store) :
    (answer <$> procedure).whole store = write answer (procedure.whole store) := by
  rw [Procedure.whole_map]
  cases procedure.whole store <;> rfl

/-- A procedure that leads to an outcome as a whole answers with it. -/
theorem same_answer_of_whole {Result : Type} {procedure : Procedure Failure Result}
    {outcome : Except Failure (Store × Result)} (hwhole : procedure.whole store = outcome)
    (answer : Result → Answer) :
    Agree SameAnswer ((answer <$> procedure).whole store) (write answer outcome) :=
  same_answer_of_eq ((whole_answer answer procedure store).trans (congrArg _ hwhole))

open RowStatements (plain) in
/-- By plain statements, in whatever order podcasts are walked over, a request has the answer that it
has at once. -/
theorem Consistent.plain_answer (hconsistent : store.Consistent)
    (horder : ∀ rows, (order rows).Perm rows) (userName : String) (request : Request) :
    Agree SameAnswer ((plain.perform order userName request).whole store)
      (store.answer userName request) := by
  cases request with
  | createUser password workFactor =>
      exact same_answer_of_whole
        (RowStatements.plain_create_user store userName password workFactor) _
  | destroyUser => exact same_answer_of_whole (RowStatements.plain_destroy_user store userName) _
  | registerDevice device =>
      refine same_answer_of_whole ?_ _
      rw [Procedure.whole_bind, RowStatements.plain_query, map_bind]
      rfl
  | updateDevice device caption kind =>
      exact same_answer_of_whole
        (RowStatements.plain_update_device store userName device caption kind) _
  | destroyDevice device =>
      exact same_answer_of_whole (RowStatements.plain_destroy_device store userName device) _
  | replaceSubscriptions device timestamp urls =>
      have hagree := hconsistent.replace_row_by_row horder userName device timestamp urls
      exact whole_answer _ _ store ▸ hagree.map fun _ _ hsame => .reordered hsame
  | changeSubscriptions device timestamp add remove =>
      exact same_answer_of_whole
        (hconsistent.change_row_by_row userName device timestamp add remove) _
  | addActions uploads => exact same_answer_of_whole (add_actions_remembering store userName uploads) _
  | saveSettings texts assignments removals =>
      refine same_answer_of_whole ?_ _
      rw [Procedure.whole_bind, RowStatements.plain_check, map_bind]
      exact bind_congr_of_ok fun key _ =>
        hconsistent.save_by_statements userName key assignments removals
  | loadUser | findDevice | listDevices | subscriptionChanges | subscriptions | findPodcast
  | listActions | lastAction | favorites | resolveKey | getSettings =>
      exact same_answer_of_eq rfl

end Store

namespace Guarded

open RowStatements (guarded plain)

/-- Carries out a request of a user by guarded statements, as a whole. -/
def perform (store : Store) (order : List (Entry Podcast) → List (Entry Podcast))
    (userName : String) (request : Request) : Except Report (Store × Answer) :=
  (guarded.perform order userName request).whole store

variable {store : Store} {order : List (Entry Podcast) → List (Entry Podcast)} {userName : String}

/-- Queries leave a store that meets the constraints as it is. -/
theorem Conforms.answer_of_read (hconstrained : store.Constrained) {request : Request}
    {Result : Type} {answer : Result → Answer} {outcome : Except Failure Result}
    (hread : store.answer userName request = store.read answer outcome) :
    Conforms Store.Constrained store
      (.execute fun store => guarded.told (store.answer userName request))
      (.execute fun store => plain.told (store.answer userName request)) := by
  refine ⟨rfl, fun next result hok => ?_⟩
  have hanswer : store.answer userName request = .ok (next, result) := reported_eq_ok_iff.mp hok
  rw [hread] at hanswer
  obtain ⟨_, _, hsame⟩ := map_eq_ok_iff.mp hanswer
  cases hsame
  exact hconstrained

/-- A request by guarded statements has the answer that it has by plain ones, in words, and leads to
a store that meets the constraints. -/
theorem perform_conforms (hconstrained : store.Constrained)
    (horder : ∀ rows, (order rows).Perm rows) (userName : String) (request : Request) :
    Conforms Store.Constrained store (guarded.perform order userName request)
      (plain.perform order userName request) := by
  cases request with
  | createUser password workFactor =>
      exact (create_user_performs hconstrained userName password workFactor).conforms.map _
  | destroyUser => exact (destroy_user_conforms hconstrained userName).map _
  | registerDevice device =>
      exact (Conforms.seen fun user _ =>
        (register_device_performs hconstrained user.id device).conforms).map _
  | updateDevice device caption kind =>
      exact (update_device_performs hconstrained userName device caption kind).conforms.map _
  | destroyDevice device => exact (destroy_device_conforms hconstrained userName device).map _
  | replaceSubscriptions device timestamp urls =>
      exact (replace_subscriptions_performs hconstrained horder userName device timestamp
        urls).conforms.map _
  | changeSubscriptions device timestamp add remove =>
      exact (change_subscriptions_performs hconstrained userName device timestamp add
        remove).conforms.map _
  | addActions uploads =>
      exact (add_actions_performs hconstrained userName uploads).conforms.map _
  | saveSettings texts assignments removals =>
      exact (Conforms.after fun key _ =>
        (save_settings_performs hconstrained userName key assignments removals).conforms).map _
  | loadUser | findDevice | listDevices | subscriptionChanges | subscriptions | findPodcast
  | listActions | lastAction | favorites | resolveKey | getSettings =>
      exact .answer_of_read hconstrained rfl

end Guarded

namespace Store

variable {store next : Store} {userName : String}

/-- The answer to a request comes with a store that meets the constraints. -/
theorem Constrained.answer (hconstrained : store.Constrained) (hconsistent : store.Consistent)
    {request : Request} {answer : Answer} (h : store.answer userName request = .ok (next, answer)) :
    next.Constrained := by
  have horder (rows : List (Entry Podcast)) : (id rows).Perm rows := .refl rows
  have hperform := Guarded.perform_conforms hconstrained horder userName request
  have hagree := hconsistent.plain_answer horder userName request
  rw [h] at hagree
  obtain ⟨⟨last, told⟩, hanswer, hsame⟩ := hagree.of_ok_right
  obtain rfl : last = next := hsame.store_eq
  exact hperform.of_ok hanswer

/-- All reachable stores meet the constraints of the schema, as every request keeps to them. -/
theorem Reachable.constrained (hreachable : store.Reachable) : store.Constrained := by
  induction hreachable with
  | empty => exact constrained_empty
  | @step store hreachable name request ih =>
      unfold Store.step
      split
      · next hanswer => exact ih.answer hreachable.consistent hanswer
      · exact ih

end Store

namespace Guarded

variable {store : Store} {order : List (Entry Podcast) → List (Entry Podcast)} {userName : String}
  {request : Request}

/-- A store that requests lead to when they are carried out statement by statement, each walking
over podcasts in an order of its own. -/
inductive Performed : Store → Prop where
  | empty : Performed .empty
  | step {store next : Store} (performed : Performed store)
      {order : List (Entry Podcast) → List (Entry Podcast)}
      (horder : ∀ rows, (order rows).Perm rows) {userName : String} {request : Request}
      {answer : Answer} (hperform : perform store order userName request = .ok (next, answer)) :
      Performed next

/-- Statement by statement no other stores are reached. -/
theorem Performed.reachable (hperformed : Performed store) : store.Reachable := by
  induction hperformed with
  | empty => exact .empty
  | @step store next _ order horder userName request answer hperform hreachable =>
      have heq : perform store order userName request = reported _ :=
        (perform_conforms hreachable.constrained horder userName request).eq
      rw [heq, reported_eq_ok_iff] at hperform
      have hagree := hreachable.consistent.plain_answer horder userName request
      rw [hperform] at hagree
      obtain ⟨⟨last, told⟩, hanswer, hsame⟩ := hagree.of_ok_left
      obtain rfl : next = last := hsame.store_eq
      have hstep : (store.step userName request).1 = next := by
        unfold Store.step
        rw [hanswer]
      exact hstep ▸ hreachable.step userName request

/-- No input of a user trips over a constraint. Whatever requests led to the store: if statements can
carry the texts and times of a request, whatever the addresses in uploads, then no statement that it
is carried out by is refused and no row is missing. Each failure is one that the user caused, each
success leads to a store that meets the constraints, and either is the answer that is expected. -/
theorem perform_within_constraints (hreachable : store.Reachable)
    (horder : ∀ rows, (order rows).Perm rows) (huser : IsBindable userName)
    (htexts : ∀ text ∈ request.texts, IsBindable text)
    (htimes : ∀ time ∈ request.times, Instant.ofUnix (-210866803200) ≤ time) :
    store.Constrained ∧
      (∀ report, perform store order userName request = .error report →
        report.userErrorKind?.isSome = true ∧ report.isInternal = false) ∧
      (∀ next answer, perform store order userName request = .ok (next, answer) →
        next.Constrained) ∧
      ∃ outcome, perform store order userName request = reported outcome ∧
        Agree Store.SameAnswer outcome (store.answer userName request) := by
  have hconsistent := hreachable.consistent
  have hconstrained := hreachable.constrained
  obtain ⟨heq, hnext⟩ := perform_conforms hconstrained horder userName request
  have hagree := hconsistent.plain_answer horder userName request
  have hfails := Store.answer_fails hconsistent hconstrained huser htexts fun time hmem =>
    Instant.storable_of_le (htimes time hmem)
  refine ⟨hconstrained, fun report hreport => ?_, hnext, _, heq, hagree⟩
  replace hreport := heq.symm.trans hreport
  cases houtcome : (RowStatements.plain.perform order userName request).whole store with
  | ok result =>
      rw [houtcome] at hreport
      cases hreport
  | error failure =>
      rw [houtcome] at hreport hagree
      cases hreport
      have hof : failure.IsOfUser := hfails failure (hagree.of_error_left)
      exact ⟨hof, hof.not_internal⟩

/-- A session that registers a device. -/
def registeredWatch : List (String × Request) :=
  [("ann", .createUser "long enough" 10), ("ann", .registerDevice "watch")]

/-- An upload of an action whose addresses no statement could carry as they are. -/
def nullAddresses (podcast : String) : Request :=
  .addActions [⟨"play", some "watch", "a.example/1\x00", some "one", podcast, some 5, none,
    .ofUnix 7, none⟩]

/-- Addresses with null characters are stored in canonical form, or break the rule that an address
has one. -/
theorem perform_with_null_addresses :
    let store := (Store.empty.run registeredWatch).1
    store.Constrained ∧
      (∃ next answer,
        perform store id "ann" (nullAddresses "http://a.example/\x00feed") = .ok (next, answer) ∧
          next.Constrained ∧
          next.podcasts.entries.map (·.row.url) = ["http://a.example/%00feed"] ∧
          next.episodes.entries.map (·.row.url) = ["http://a.example/1"]) ∧
      ∃ report, perform store id "ann" (nullAddresses "\x00") = .error report ∧
        report.isInternal = false ∧
        report.message = "Validation failed: Invalid podcast URL \"\x00\"." := by
  intro store
  have hreachable : store.Reachable := Store.Reachable.empty.run registeredWatch
  have horder (rows : List (Entry Podcast)) : (id rows).Perm rows := .refl rows
  have huser : IsBindable "ann" := by decide
  have htexts (podcast : String) : ∀ text ∈ (nullAddresses podcast).texts, IsBindable text := by
    change ∀ text ∈ ["play", "watch", "one"], IsBindable text
    decide
  have htimes (podcast : String) :
      ∀ time ∈ (nullAddresses podcast).times, Instant.ofUnix (-210866803200) ≤ time := by
    change ∀ time ∈ [Instant.ofUnix 7], Instant.ofUnix (-210866803200) ≤ time
    decide
  have hsafe (podcast : String) :=
    perform_within_constraints hreachable horder huser (htexts podcast) (htimes podcast)
  obtain ⟨hconstrained, _, hnext, _⟩ := hsafe "http://a.example/\x00feed"
  obtain ⟨_, hreports, _⟩ := hsafe "\x00"
  have hstored :
      (perform store id "ann" (nullAddresses "http://a.example/\x00feed")).toOption.map (fun result =>
        (result.1.podcasts.entries.map (·.row.url), result.1.episodes.entries.map (·.row.url))) =
      some (["http://a.example/%00feed"], ["http://a.example/1"]) := by
    decide +kernel
  have hrefused : perform store id "ann" (nullAddresses "\x00") =
      .error (Failure.invalid (.invalidPodcastUrl "\x00")).report := rfl
  refine ⟨hconstrained, ?_, _, hrefused, (hreports _ hrefused).2, by decide⟩
  cases hperform : perform store id "ann" (nullAddresses "http://a.example/\x00feed") with
  | error report =>
      rw [hperform] at hstored
      cases hstored
  | ok result =>
      rw [hperform] at hstored
      obtain ⟨hpodcasts, hepisodes⟩ := Prod.mk.inj (Option.some.inj hstored)
      exact ⟨result.1, result.2, rfl, hnext _ _ hperform, hpodcasts, hepisodes⟩

end Guarded

end PodcastLedger
