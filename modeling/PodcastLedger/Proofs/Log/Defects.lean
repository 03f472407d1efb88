import PodcastLedger.Proofs.Checks
import PodcastLedger.Proofs.Transactions.Rollback

/-!
# Defects of uploaded actions

An action of an upload is defective if one of the seven checks that it goes through fails
(`ActionUpload.Fails`). A batch is refused for its contents exactly if an action of it is defective,
and what is reported is the first defect of the earliest such action, before the user is looked for
and before any statement is made: `Store.add_actions_reports_first_defect`.
-/

namespace PodcastLedger

/-- The checks of an action. -/
inductive ActionCheck where
  | kind
  | measure (field : PlaybackField)
  | device
  | podcast
  | episode
  deriving DecidableEq, Repr

/-- All checks of an action in the order in which they are made. -/
def ActionCheck.all : List ActionCheck :=
  [.kind, .measure .started, .measure .position, .measure .total, .device, .podcast, .episode]

/-- No check is left out. -/
theorem ActionCheck.mem_all (check : ActionCheck) : check ∈ all := by
  cases check with
  | measure field => cases field <;> decide
  | kind | device | podcast | episode => decide

/-- A text is read as the kind that its small letters name. -/
theorem ActionKind.of_text_eq_some_iff {text : String} {kind : ActionKind} :
    ofText? text = some kind ↔ Text.smallLetters text = kind.name := by
  constructor
  · intro hread
    have hnamed := List.find?_some hread
    exact eq_of_beq hnamed
  · intro hnamed
    rw [← ofText?_name kind]
    unfold ofText?
    rw [hnamed]
    cases kind <;> decide

namespace ActionUpload

variable {upload : ActionUpload} {uploads : List ActionUpload}

/-- The text of the action names the kind in some letter case. -/
def IsOf (upload : ActionUpload) (kind : ActionKind) : Prop :=
  Text.smallLetters upload.action = kind.name

/-- What an action gives for a measure of playback. -/
def measure (upload : ActionUpload) : PlaybackField → Option Int
  | .started => upload.started
  | .position => upload.position
  | .total => upload.total

/-- A check of an action fails for a rule: the text of the action names no kind, a measure is given
without playback or is negative, a device is given by a text that is no name, or an address has no
canonical form. -/
inductive Fails (upload : ActionUpload) : ActionCheck → Violation → Prop where
  | unknownKind (hunknown : ∀ kind, ¬upload.IsOf kind) :
      Fails upload .kind (.unknownActionKind upload.action)
  | otherKind {field : PlaybackField} {number : Int} (hgiven : upload.measure field = some number)
      (hother : ¬upload.IsOf .play) : Fails upload (.measure field) (.fieldOfOtherAction field)
  | negative {field : PlaybackField} {number : Int} (hgiven : upload.measure field = some number)
      (hplay : upload.IsOf .play) (hnegative : number < 0) :
      Fails upload (.measure field) (.negativeField field)
  | device {name : String} {violation : Violation} (hgiven : upload.device = some name)
      (hbreaks : BreaksName "device" name violation) : Fails upload .device violation
  | noPodcast (hdropped : Web.canonical? upload.podcast = none) :
      Fails upload .podcast (.invalidPodcastUrl upload.podcast)
  | noEpisode (hdropped : Web.canonical? upload.episode = none) :
      Fails upload .episode (.invalidEpisodeUrl upload.episode)

/-- The first check that fails for an action breaks the rule. -/
def IsDefective (upload : ActionUpload) (violation : Violation) : Prop :=
  FirstBroken upload.Fails ActionCheck.all violation

/-- The earliest action of a batch that is defective breaks the rule. -/
def HasDefect (uploads : List ActionUpload) (violation : Violation) : Prop :=
  FirstBroken IsDefective uploads violation

/-! ## Single checks -/

/-- The text of an action is read as a kind. -/
theorem read_kind_exact (upload : ActionUpload) :
    FailsExactly (upload.Fails .kind) (readKind upload.action) := by
  unfold readKind
  split
  · next kind hread =>
      refine fails_exactly_ok fun violation hfails => ?_
      cases hfails with
      | unknownKind hunknown => exact hunknown kind (ActionKind.of_text_eq_some_iff.mp hread)
  · next hread =>
      refine fails_exactly_error fun other => ⟨fun hfails => ?_, ?_⟩
      · cases hfails
        rfl
      · rintro rfl
        refine .unknownKind fun kind hnamed => ?_
        rw [ActionKind.of_text_eq_some_iff.mpr hnamed] at hread
        cases hread

/-- An action names no more than one kind. -/
theorem IsOf.kind_unique {kind other : ActionKind} (hkind : upload.IsOf kind)
    (hother : upload.IsOf other) : kind = other :=
  Option.some.inj ((ActionKind.of_text_eq_some_iff.mpr hkind).symm.trans
    (ActionKind.of_text_eq_some_iff.mpr hother))

/-- A measure of an action of some kind is validated. -/
theorem validate_field_exact {kind : ActionKind} (hkind : upload.IsOf kind)
    (field : PlaybackField) :
    FailsExactly (upload.Fails (.measure field))
      (validateField kind field (upload.measure field)) := by
  cases hgiven : upload.measure field with
  | none =>
      refine fails_exactly_ok fun violation hfails => ?_
      cases hfails with
      | otherKind hsome _ | negative hsome _ _ =>
          rw [hgiven] at hsome
          cases hsome
  | some number =>
      unfold validateField
      dsimp only
      -- The kind is looked at first: a negative measure of another kind is reported for the kind.
      split
      · next hother =>
          have hnot : ¬upload.IsOf .play := fun hplay => hother (hkind.kind_unique hplay)
          refine fails_exactly_error fun other => ⟨fun hfails => ?_, ?_⟩
          · cases hfails with
            | otherKind => rfl
            | negative _ hplay _ => exact absurd hplay hnot
          · rintro rfl
            exact .otherKind hgiven hnot
      · next hplay =>
          obtain rfl : kind = .play := not_not.mp hplay
          split
          · next hnegative =>
              refine fails_exactly_error fun other => ⟨fun hfails => ?_, ?_⟩
              · cases hfails with
                | otherKind _ hother => exact absurd hkind hother
                | negative => rfl
              · rintro rfl
                exact .negative hgiven hkind hnegative
          · next hpositive =>
              refine fails_exactly_ok fun violation hfails => ?_
              cases hfails with
              | otherKind _ hother => exact hother hkind
              | negative hsome _ hnegative =>
                  rw [hgiven] at hsome
                  cases hsome
                  exact hpositive hnegative

/-- The name of a device is validated if there is one. -/
theorem validate_device_exact (upload : ActionUpload) :
    FailsExactly (upload.Fails .device) (validateDevice upload.device) := by
  cases hgiven : upload.device with
  | none =>
      refine fails_exactly_ok fun violation hfails => ?_
      cases hfails with
      | device hsome _ =>
          rw [hgiven] at hsome
          cases hsome
  | some name =>
      have hfails (violation : Violation) :
          upload.Fails .device violation ↔ BreaksName "device" name violation := by
        constructor
        · intro hfails
          cases hfails with
          | device hsome hbreaks =>
              rw [hgiven] at hsome
              cases hsome
              exact hbreaks
        · exact .device hgiven
      intro failure
      simp only [hfails]
      exact validate_name_exact "device" name failure

/-- An address is read as its canonical form. -/
theorem read_url_exact {raw : String} {violation : Violation} {broken : Violation → Prop}
    (hbroken : ∀ other, broken other ↔ other = violation ∧ Web.canonical? raw = none) :
    FailsExactly broken (readUrl raw violation) := by
  unfold readUrl
  split
  · next hcanonical =>
      refine fails_exactly_ok fun other hother => ?_
      rw [((hbroken other).mp hother).2] at hcanonical
      cases hcanonical
  · next hdropped =>
      exact fails_exactly_error fun other => (hbroken other).trans (and_iff_left hdropped)

/-! ## Actions and batches -/

/-- An action is validated by its checks, one after the other. -/
theorem validate_exact (upload : ActionUpload) :
    FailsExactly upload.IsDefective upload.validate := by
  refine (read_kind_exact upload).cons fun kind hread => ?_
  have hkind : upload.IsOf kind := by
    unfold readKind at hread
    split at hread
    · next hnamed =>
        cases hread
        exact ActionKind.of_text_eq_some_iff.mp hnamed
    · cases hread
  refine (validate_field_exact hkind .started).cons fun _ _ => ?_
  refine (validate_field_exact hkind .position).cons fun _ _ => ?_
  refine (validate_field_exact hkind .total).cons fun _ _ => ?_
  refine (validate_device_exact upload).cons fun _ _ => ?_
  have hpodcast (violation : Violation) : upload.Fails .podcast violation ↔
      violation = .invalidPodcastUrl upload.podcast ∧ Web.canonical? upload.podcast = none := by
    constructor
    · intro hfails
      cases hfails with
      | noPodcast hdropped => exact ⟨rfl, hdropped⟩
    · rintro ⟨rfl, hdropped⟩
      exact .noPodcast hdropped
  refine (read_url_exact hpodcast).cons fun _ _ => ?_
  have hepisode (violation : Violation) : upload.Fails .episode violation ↔
      violation = .invalidEpisodeUrl upload.episode ∧ Web.canonical? upload.episode = none := by
    constructor
    · intro hfails
      cases hfails with
      | noEpisode hdropped => exact ⟨rfl, hdropped⟩
    · rintro ⟨rfl, hdropped⟩
      exact .noEpisode hdropped
  exact (read_url_exact hepisode).cons fun _ _ => fails_exactly_ok fun _ => not_first_broken_nil

/-- An action is defective exactly if one of its checks fails. -/
theorem exists_defective_iff :
    (∃ violation, upload.IsDefective violation) ↔
      ∃ check violation, upload.Fails check violation := by
  unfold IsDefective
  simp only [exists_first_broken_iff, ActionCheck.mem_all, true_and]

/-- A batch is validated action by action. -/
theorem validate_all_exact (uploads : List ActionUpload) :
    FailsExactly (HasDefect uploads) (uploads.mapM validate) :=
  .mapM fun upload _ => validate_exact upload

/-- A batch has a defect exactly if one of its actions fails one of the checks. -/
theorem exists_defect_iff :
    (∃ violation, HasDefect uploads violation) ↔
      ∃ upload ∈ uploads, ∃ check violation, upload.Fails check violation := by
  unfold HasDefect
  rw [exists_first_broken_iff]
  simp only [exists_defective_iff]

/-- No defect of a batch concerns the name of the user. -/
theorem HasDefect.not_user {violation : Violation} (hdefect : HasDefect uploads violation) :
    violation ≠ .missingName "user" := by
  obtain ⟨_, upload, _, _, _, _, check, _, _, _, hfails⟩ := hdefect
  cases hfails with
  | device _ hbreaks => cases hbreaks <;> simp
  | unknownKind | otherKind | negative | noPodcast | noEpisode => simp

end ActionUpload

namespace Store

variable {store : Store} {userName : String} {uploads : List ActionUpload} {violation : Violation}

/-- A user is not loaded for a broken rule unless the name is empty. -/
theorem load_user_exact (store : Store) (userName : String) (violation : Violation) :
    store.loadUser userName = .error (.invalid violation) ↔
      violation = .missingName "user" ∧ userName = "" := by
  unfold loadUser
  split
  · next hempty => simp [hempty, eq_comm]
  · next hpresent =>
      simp only [hpresent, and_false, iff_false]
      intro herror
      unfold require at herror
      split at herror
      · cases hfound : store.findUser? userName with
        | none =>
            rw [hfound] at herror
            cases herror
        | some user =>
            rw [hfound] at herror
            cases herror
      · cases herror

/-- The failure is that a statement was refused. -/
def IsRefusal (failure : Failure) : Prop :=
  ∃ statement, failure = .refused statement

/-- A statement is refused or passes. -/
theorem require_refuses {condition : Prop} [Decidable condition] {statement : Statement} :
    FailsOnly IsRefusal (require condition statement) := by
  unfold require
  split
  · exact fails_only_ok _
  · exact fails_only_error ⟨statement, rfl⟩

/-- An action whose device has a name breaks no rule when it is placed. -/
theorem place_action_refuses {userId : Int} {action : ValidAction}
    (hname : ∀ name ∈ action.device, IsName name) :
    FailsOnly IsRefusal (store.placeAction userId action) := by
  have hdevice : FailsOnly IsRefusal (store.placeDevice userId action.device) := by
    unfold placeDevice
    split
    · exact fails_only_ok _
    · next name hgiven =>
        have hvalid : validateName "device" name = .ok () :=
          validateName_eq_ok_iff.mpr (hname name hgiven)
        refine FailsOnly.bind (FailsOnly.bind (fails_only_of_ok hvalid) fun _ _ =>
          require_refuses.bind fun _ _ => ?_) fun _ _ => fails_only_ok _
        split <;> exact fails_only_ok _
  refine hdevice.bind fun _ _ => ?_
  refine FailsOnly.bind (require_refuses.bind fun _ _ => ?_) fun _ _ => ?_
  · split <;> exact fails_only_ok _
  · refine FailsOnly.bind (require_refuses.bind fun _ _ => ?_) fun _ _ => fails_only_ok _
    split <;> exact fails_only_ok _

/-- Actions whose devices have names break no rule when they are placed. -/
theorem place_actions_refuses {userId : Int} {actions : List ValidAction}
    (hnames : ∀ action ∈ actions, ∀ name ∈ action.device, IsName name) :
    FailsOnly IsRefusal (store.placeActions userId actions) := by
  induction actions generalizing store with
  | nil => exact fails_only_ok _
  | cons action actions ih =>
      obtain ⟨hfirst, hrest⟩ := List.forall_mem_cons.mp hnames
      exact (place_action_refuses hfirst).bind fun _ _ =>
        (ih hrest).bind fun _ _ => fails_only_ok _

/-- The devices of actions that were validated have names. -/
theorem names_of_validate {actions : List ValidAction}
    (hvalidate : uploads.mapM ActionUpload.validate = .ok actions) :
    ∀ action ∈ actions, ∀ name ∈ action.device, IsName name := by
  intro action hmem name hname
  obtain ⟨upload, _, hvalid⟩ := validate_all_ok hvalidate action hmem
  have hgiven : upload.device = some name := by
    rw [(ActionUpload.reads_of_validate hvalid).others] at hname
    exact hname
  have hsound := (ActionUpload.validate_exact upload).not_broken hvalid
  -- What is wrong with the name would be a defect of the action.
  refine (is_name_iff_unbroken "device" name).mpr fun violation hbreaks => not_exists.mpr hsound ?_
  exact ActionUpload.exists_defective_iff.mpr ⟨.device, violation, .device hgiven hbreaks⟩

/-- A batch without defects of a user who is there is stored unless a statement is refused. -/
theorem add_actions_refuses {user : Entry User} (hload : store.loadUser userName = .ok user)
    (hnone : ∀ violation, ¬ActionUpload.HasDefect uploads violation) :
    FailsOnly IsRefusal (store.addActions userName uploads) := by
  obtain ⟨actions, hvalidate⟩ := (ActionUpload.validate_all_exact uploads).ok_of_not_broken hnone
  refine (fails_only_of_ok hvalidate).bind fun valid hvalid => ?_
  refine (fails_only_of_ok hload).bind fun _ _ => ?_
  refine (place_actions_refuses (names_of_validate hvalid)).bind fun _ _ => ?_
  exact (require_refuses.bind fun _ _ => fails_only_ok _).bind fun _ _ => fails_only_ok _

/-- A batch breaks the rule of its first defect. Without one, all that can be wrong is that the name
of the user is empty. -/
theorem add_actions_invalid_iff :
    store.addActions userName uploads = .error (.invalid violation) ↔
      ActionUpload.HasDefect uploads violation ∨
        (∀ other, ¬ActionUpload.HasDefect uploads other) ∧
          violation = .missingName "user" ∧ userName = "" := by
  have hexact := ActionUpload.validate_all_exact uploads
  cases hvalidate : uploads.mapM ActionUpload.validate with
  | error failure =>
      obtain ⟨defect, _, rfl⟩ := (hexact failure).mp hvalidate
      have hadd : store.addActions userName uploads = .error (.invalid defect) := by
        unfold addActions
        rw [hvalidate]
        rfl
      have hfirst := hexact.broken_iff hvalidate
      simp [hadd, hfirst, eq_comm]
  | ok actions =>
      -- Nothing is wrong with the contents, so only the name of the user can break a rule.
      have hnone := hexact.not_broken hvalidate
      simp only [hnone, false_or, not_false_eq_true, implies_true, true_and]
      rw [← load_user_exact store]
      cases hload : store.loadUser userName with
      | error failure =>
          have hadd : store.addActions userName uploads = .error failure := by
            unfold addActions
            rw [hvalidate, hload]
            rfl
          simp [hadd]
      | ok user =>
          refine ⟨fun herror => ?_, nofun⟩
          obtain ⟨statement, hrefused⟩ := add_actions_refuses hload hnone _ herror
          cases hrefused

/-- A batch with a defect fails as a whole before any statement is made, whatever the connection. -/
theorem perform_of_defect (hdefect : ActionUpload.HasDefect uploads violation)
    (order : List (Entry Podcast) → List (Entry Podcast)) (connection : Connection) :
    (Call.mk order userName (.addActions uploads)).perform connection =
      (.error ⟨.user .validation violation.message, []⟩, connection) := by
  have hvalidate := (ActionUpload.validate_all_exact uploads _).mpr ⟨violation, hdefect, rfl⟩
  have hcheck : RowStatements.guarded.check (uploads.mapM ActionUpload.validate) =
      .settle (.error ⟨.user .validation violation.message, []⟩) := by
    rw [hvalidate]
    rfl
  -- The check comes first, so none of the statements behind it is made.
  unfold Call.perform Work.steps RowStatements.perform RowStatements.addActions
  dsimp only
  rw [hcheck]
  rfl

/-- On a reachable store a batch of a user who is there is stored exactly if no action is defective,
as long as its times can be stored and its identifiers can be part of statements. -/
theorem Reachable.add_actions_accepts_iff (hreachable : store.Reachable) {user : Entry User}
    (hmem : user ∈ store.users.entries)
    (hcarried : ∀ upload ∈ uploads, upload.timestamp.IsStorable ∧
      ∀ text ∈ upload.guid, IsBindable text) :
    (∃ next added, store.addActions user.row.name uploads = .ok (next, added)) ↔
      ∀ upload ∈ uploads, ∀ check violation, ¬upload.Fails check violation := by
  have hconsistent := hreachable.consistent
  have hload := hconsistent.load_user hmem
  have hnone : (∀ violation, ¬ActionUpload.HasDefect uploads violation) ↔
      ∀ upload ∈ uploads, ∀ check violation, ¬upload.Fails check violation := by
    rw [← not_exists, ActionUpload.exists_defect_iff]
    push Not
    rfl
  rw [← hnone]
  constructor
  · rintro ⟨next, added, hadd⟩ violation hdefect
    rw [add_actions_invalid_iff.mpr (.inl hdefect)] at hadd
    cases hadd
  · intro hvalid
    have hfails := add_actions_fails hconsistent (load_user_ok hload).2.1
      (fun upload hupload => (hcarried upload hupload).2)
      (fun upload hupload => (hcarried upload hupload).1)
    cases hadd : store.addActions user.row.name uploads with
    | ok result => exact ⟨result.1, result.2, rfl⟩
    | error failure =>
        obtain ⟨statement, hrefused⟩ := add_actions_refuses hload hvalid failure hadd
        exact (Failure.is_of_user_iff.mp (hfails failure hadd) statement hrefused).elim

/-- A batch is accepted exactly if every action of it is valid, and its first defect is reported. In
any store and for any user, known or not, adding actions fails for the contents of the batch exactly
if a check of an action fails. What is reported is the defect of the earliest such action, and its
first one; so it is whatever else is wrong with the user or the store, and no statement is made. -/
theorem add_actions_reports_first_defect (store : Store) (userName : String)
    (uploads : List ActionUpload) :
    ((∃ violation ≠ .missingName "user",
        store.addActions userName uploads = .error (.invalid violation)) ↔
      ∃ upload ∈ uploads, ∃ check violation, upload.Fails check violation) ∧
    (∀ violation,
      (violation ≠ .missingName "user" ∧
        store.addActions userName uploads = .error (.invalid violation)) ↔
      ActionUpload.HasDefect uploads violation) ∧
    (∀ violation, ActionUpload.HasDefect uploads violation →
      store.step userName (.addActions uploads) = (store, .error (.invalid violation)) ∧
      ∀ order connection, (Call.mk order userName (.addActions uploads)).perform connection =
        (.error ⟨.user .validation violation.message, []⟩, connection)) ∧
    (store.Reachable → ∀ user ∈ store.users.entries, user.row.name = userName →
      (∀ upload ∈ uploads, upload.timestamp.IsStorable ∧ ∀ text ∈ upload.guid, IsBindable text) →
        ((∃ next added, store.addActions userName uploads = .ok (next, added)) ↔
          ∀ upload ∈ uploads, ∀ check violation, ¬upload.Fails check violation)) := by
  have hiff (violation : Violation) : (violation ≠ .missingName "user" ∧
        store.addActions userName uploads = .error (.invalid violation)) ↔
      ActionUpload.HasDefect uploads violation := by
    rw [add_actions_invalid_iff]
    constructor
    · rintro ⟨hother, hdefect | ⟨_, huser, _⟩⟩
      · exact hdefect
      · exact absurd huser hother
    · intro hdefect
      exact ⟨hdefect.not_user, .inl hdefect⟩
  refine ⟨?_, hiff, fun violation hdefect => ⟨?_, perform_of_defect hdefect⟩, ?_⟩
  · rw [← ActionUpload.exists_defect_iff]
    exact exists_congr hiff
  · refine step_of_error ?_
    show write .actionsAdded (store.addActions userName uploads) = _
    rw [add_actions_invalid_iff.mpr (.inl hdefect)]
    rfl
  · rintro hreachable user hmem rfl hcarried
    exact hreachable.add_actions_accepts_iff hmem hcarried

/-- A batch whose first action is valid. The second one has a negative measure, a malformed device
and an address of no web page, and the third one is of no kind. -/
def faultyBatch : List ActionUpload :=
  [⟨"PLAY", some "phone", "http://a.example/1", none, "http://a.example/feed", some 20, none,
      .ofUnix 1000, some 60⟩,
    ⟨"play", some "my phone", "ftp://a.example/1", none, "http://a.example/feed", some 20, none,
      .ofUnix 2000, some (-1)⟩,
    ⟨"listen", none, "http://a.example/1", none, "http://a.example/feed", none, none,
      .ofUnix 3000, none⟩]

/-- The negative measure is what is reported, even to a user who is not known and on a connection
whose next statement takes too long. Up to the first action the batch is accepted. -/
theorem faulty_batch_reports_measure :
    let store := (Store.empty.run [("ann", .createUser "long enough" 10)]).1
    let slow : Report := ⟨.note "canceling statement due to statement timeout", []⟩
    let disturbed : Connection := ⟨store, [store], [some slow]⟩
    let batch : Call := ⟨id, "bob", .addActions faultyBatch⟩
    store.findUser? "bob" = none ∧
      ActionUpload.HasDefect faultyBatch (.negativeField .total) ∧
      store.step "bob" (.addActions faultyBatch) =
        (store, .error (.invalid (.negativeField .total))) ∧
      batch.perform disturbed =
        (.error ⟨.user .validation "Field \"total\" must not be negative.", []⟩, disturbed) ∧
      (∃ next added, store.addActions "ann" (faultyBatch.take 1) = .ok (next, added)) ∧
      ∀ upload ∈ faultyBatch.take 1, ∀ check violation, ¬upload.Fails check violation := by
  intro store slow disturbed batch
  have hreachable : store.Reachable := Reachable.empty.run [("ann", .createUser "long enough" 10)]
  obtain ⟨_, hdefects, hreports, _⟩ := add_actions_reports_first_defect store "bob" faultyBatch
  have hdefect : ActionUpload.HasDefect faultyBatch (.negativeField .total) :=
    (hdefects _).mp ⟨by decide, by decide +kernel⟩
  obtain ⟨hstep, hperform⟩ := hreports _ hdefect
  have hstored : ∃ next added, store.addActions "ann" (faultyBatch.take 1) = .ok (next, added) := by
    have hok : (store.addActions "ann" (faultyBatch.take 1)).isOk = true := by decide +kernel
    cases hadd : store.addActions "ann" (faultyBatch.take 1) with
    | ok result => exact ⟨result.1, result.2, rfl⟩
    | error failure =>
        rw [hadd] at hok
        cases hok
  obtain ⟨_, _, _, haccepts⟩ := add_actions_reports_first_defect store "ann" (faultyBatch.take 1)
  have hcarried : ∀ upload ∈ faultyBatch.take 1, upload.timestamp.IsStorable ∧
      ∀ text ∈ upload.guid, IsBindable text := by decide +kernel
  exact ⟨by decide +kernel, hdefect, hstep, hperform id disturbed, hstored,
    (haccepts hreachable ⟨1, "ann", false, 10⟩ (by decide +kernel) rfl hcarried).mp hstored⟩

end Store

end PodcastLedger
