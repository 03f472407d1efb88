import PodcastLedger.Proofs.Uploads.Cataloguing

/-!
# Uploads

What both kinds of uploads of subscriptions have in common. `Store.Uploaded` accounts for every row
of the store afterwards and for every row of the answer. `Store.Consistent.upload` derives it for
the store in which the device is registered, podcasts are catalogued, some are subscribed to and
others ended.
-/

namespace PodcastLedger

/-- A name has no null character. -/
theorem IsName.bindable {name : String} (hname : IsName name) : IsBindable name := by
  intro hnull
  exact absurd (hname.2 _ hnull) (by decide)

namespace Store

variable {store next : Store} {userId : Int} {device : String} {time : Instant}

/-! ## Devices -/

/-- The store with a device of the name. -/
def withDevice (store : Store) (userId : Int) (name : String) : Store :=
  match store.findDevice? userId name with
  | some _ => store
  | none => { store with devices := store.devices.insert ⟨userId, name, "", .other⟩ }

/-- The tables but that of devices stay. -/
theorem with_device_eq (store : Store) (userId : Int) (name : String) :
    store.withDevice userId name =
      { store with devices := (store.withDevice userId name).devices } := by
  unfold withDevice
  split <;> rfl

/-- The device is known then. -/
theorem find_device_with_device :
    ((store.withDevice userId device).findDevice? userId device).isSome := by
  unfold withDevice
  cases hfind : store.findDevice? userId device with
  | some found => simp [hfind]
  | none => simp [findDevice?, Table.find?]

/-- A device that is known need not be registered. -/
theorem with_device_of_known (hknown : (store.findDevice? userId device).isSome) :
    store.withDevice userId device = store := by
  obtain ⟨found, hfound⟩ := Option.isSome_iff_exists.mp hknown
  unfold withDevice
  rw [hfound]

/-- The podcasts stay. -/
@[simp] theorem podcasts_with_device :
    (store.withDevice userId device).podcasts = store.podcasts := by
  rw [with_device_eq]

/-- The users stay. -/
@[simp] theorem users_with_device : (store.withDevice userId device).users = store.users := by
  rw [with_device_eq]

/-- The catalogs stay. -/
@[simp] theorem catalogued_with_device :
    (store.withDevice userId device).catalogued = store.catalogued := by
  unfold catalogued
  rw [podcasts_with_device]

/-- The subscriptions stay. -/
@[simp] theorem subscribed_with_device :
    (store.withDevice userId device).subscribed = store.subscribed := by
  unfold Store.subscribed
  rw [podcasts_with_device]

/-- A device is registered exactly if its name is one and the user is there. -/
theorem register_device_iff :
    (∃ registration, store.registerDevice userId device = .ok (next, registration)) ↔
      (IsName device ∧ store.users.Has userId) ∧ next = store.withDevice userId device := by
  simp only [registerDevice, insertDevice, withDevice, bind_eq_ok_iff, require_eq_ok_iff,
    validateName_eq_ok_iff]
  constructor
  · rintro ⟨registration, _, hname, _, ⟨_, _, huser⟩, h⟩
    refine ⟨⟨hname, huser⟩, ?_⟩
    cases hfind : store.findDevice? userId device <;> rw [hfind] at h <;> cases h <;> rfl
  · rintro ⟨⟨hname, huser⟩, rfl⟩
    cases hfind : store.findDevice? userId device with
    | some found => exact ⟨_, (), hname, (), ⟨hname.1, hname.bindable, huser⟩, rfl⟩
    | none => exact ⟨_, (), hname, (), ⟨hname.1, hname.bindable, huser⟩, rfl⟩

/-- Consistency survives. -/
theorem Consistent.with_device (hconsistent : store.Consistent) (huser : store.users.Has userId)
    (hname : IsName device) : (store.withDevice userId device).Consistent := by
  unfold withDevice
  split
  · exact hconsistent
  · next hnew => exact hconsistent.insert_device huser hname.1 hname.bindable hnew

/-! ## Rows -/

/-- The rows are all of the user and in the store, on the side given and turned as of the time, and
ascend strictly by their addresses. -/
structure Reports (next : Store) (userId : Int) (subscribed : Bool) (time : Instant)
    (rows : List (Entry Podcast)) : Prop where
  stored : ∀ podcast ∈ rows, podcast ∈ next.podcasts.entries
  turned : ∀ podcast ∈ rows, podcast.row.userId = userId ∧ podcast.row.subscribed = subscribed ∧
    podcast.row.updatedAt = time
  ascending : rows.Pairwise fun first second => first.row.url < second.row.url

/-- What an upload leaves. Every podcast that was there is kept or, if it is one of the user, turned
as of the time; new podcasts are subscriptions as of the time to wanted addresses that were in no
row; the device is registered if it was not, and nothing else changes. The answer reports rows of
the store afterwards. -/
structure Uploaded (store next : Store) (userId : Int) (device : String) (time : Instant)
    (wanted : Set String) (update : SubscriptionUpdate) : Prop where
  kept : ∀ old ∈ store.podcasts.entries, ∃ new ∈ next.podcasts.entries,
    KeptOrTurned userId time.stored old new
  origin : ∀ new ∈ next.podcasts.entries,
    (∃ old ∈ store.podcasts.entries, KeptOrTurned userId time.stored old new) ∨
      ∃ url ∈ wanted \ store.catalogued userId,
        new.row = ⟨userId, url, none, none, none, true, time.stored⟩
  devices : next.devices = (store.withDevice userId device).devices
  others : next = { store with devices := next.devices, podcasts := next.podcasts }
  subscribed : next.Reports userId true time.stored update.subscribed
  unsubscribed : next.Reports userId false time.stored update.unsubscribed

/-! ## Effect -/

variable {urls : List String} {ended : String → Bool}

/-- The store with the device and the podcasts of an upload, none of them turned yet. -/
def prepared (store : Store) (userId : Int) (device : String) (urls : List String) : Store :=
  (store.withDevice userId device).withPodcasts userId urls

/-- The catalog has the addresses that it had and those of the upload. -/
@[simp] theorem catalogued_prepared :
    (store.prepared userId device urls).catalogued userId =
      store.catalogued userId ∪ {url | url ∈ urls} := by
  rw [prepared, catalogued_with_podcasts, catalogued_with_device]

/-- The subscriptions are what they were. -/
@[simp] theorem subscribed_prepared :
    (store.prepared userId device urls).subscribed userId = store.subscribed userId := by
  rw [prepared, subscribed_with_podcasts, subscribed_with_device]

/-- Consistency survives. -/
theorem Consistent.prepare (hconsistent : store.Consistent) (huser : store.users.Has userId)
    (hname : IsName device) (urls : List String) :
    (store.prepared userId device urls).Consistent :=
  (hconsistent.with_device huser hname).with_podcasts (by rwa [users_with_device]) urls

/-- The store after an upload: some addresses are subscribed to, and other subscriptions ended. -/
def uploaded (store : Store) (userId : Int) (device : String) (urls : List String)
    (ended : String → Bool) (time : Instant) : Store :=
  ((store.prepared userId device urls).turned userId urls.contains true time).turned userId ended
    false time

/-- The answer to an upload. -/
def uploadUpdate (store : Store) (userId : Int) (device : String) (urls : List String)
    (ended : String → Bool) (time : Instant) (rewrites : List Web.Rewrite) : SubscriptionUpdate :=
  ⟨(store.prepared userId device urls).turnedRows userId urls.contains true time,
    (store.prepared userId device urls).turnedRows userId ended false time, time, rewrites⟩

/-- The rows after an upload are those before and the new ones, settled on the sides wanted. -/
theorem entries_uploaded (hdisjoint : ∀ url, urls.contains url = true → ended url = false) :
    (store.uploaded userId device urls ended time).podcasts.entries =
      (store.prepared userId device urls).podcasts.entries.map
        (settle userId
          (fun url => (side ended false url).or (side urls.contains true url)) time.stored) :=
  entries_turned_turned hdisjoint

/-- The users stay in an upload. -/
@[simp] theorem users_uploaded :
    (store.uploaded userId device urls ended time).users = store.users := by
  show ((store.withDevice userId device).withPodcasts userId urls).users = store.users
  rw [with_podcasts_eq, with_device_eq]

/-- Consistency survives an upload. -/
theorem Consistent.after_upload (hconsistent : store.Consistent) (huser : store.users.Has userId)
    (hname : IsName device) :
    (store.uploaded userId device urls ended time).Consistent :=
  (hconsistent.prepare huser hname urls).after_turn.after_turn

/-- The catalog after an upload. -/
theorem catalogued_uploaded :
    (store.uploaded userId device urls ended time).catalogued userId =
      store.catalogued userId ∪ {url | url ∈ urls} := by
  rw [uploaded, catalogued_turned, catalogued_turned, catalogued_prepared]

/-- The subscriptions after an upload. -/
theorem subscribed_uploaded :
    (store.uploaded userId device urls ended time).subscribed userId =
      (store.subscribed userId ∪ {url | url ∈ urls}) \ {url | ended url = true} := by
  refine Set.ext fun url => ?_
  unfold uploaded
  rw [mem_subscribed_turned, mem_subscribed_turned, catalogued_turned, catalogued_prepared,
    subscribed_prepared]
  by_cases hended : ended url = true <;> by_cases hadded : url ∈ urls <;> simp [hended, hadded]

/-- What an upload reports as subscribed to was not subscribed to before. -/
theorem Consistent.addresses_subscribed (hconsistent : store.Consistent)
    (huser : store.users.Has userId) (hname : IsName device) (rewrites : List Web.Rewrite) :
    addresses (store.uploadUpdate userId device urls ended time rewrites).subscribed =
      {url | url ∈ urls} \ store.subscribed userId := by
  unfold uploadUpdate
  rw [(hconsistent.prepare huser hname urls).addresses_turned_on, catalogued_prepared,
    subscribed_prepared]
  refine congrArg (· \ store.subscribed userId) (Set.ext fun url => ?_)
  simp +contextual

/-- What an upload reports as ended was subscribed to before. -/
theorem addresses_unsubscribed (rewrites : List Web.Rewrite) :
    addresses (store.uploadUpdate userId device urls ended time rewrites).unsubscribed =
      {url ∈ store.subscribed userId | ended url = true} := by
  unfold uploadUpdate
  rw [addresses_turned_off, subscribed_prepared]

/-- A row after an upload is a kept or turned one, or a new subscription. -/
theorem origin_of_uploaded (hdisjoint : ∀ url, urls.contains url = true → ended url = false) :
    ∀ new ∈ (store.uploaded userId device urls ended time).podcasts.entries,
      (∃ old ∈ store.podcasts.entries, KeptOrTurned userId time.stored old new) ∨
        ∃ url ∈ {url | url ∈ urls} \ store.catalogued userId,
          new.row = ⟨userId, url, none, none, none, true, time.stored⟩ := by
  intro new hnew
  rw [entries_uploaded hdisjoint] at hnew
  obtain ⟨podcast, hmem, rfl⟩ := List.mem_map.mp hnew
  rcases of_mem_with_podcasts hmem with hold | ⟨url, hurl, hunknown, hrow⟩
  · rw [podcasts_with_device] at hold
    exact .inl ⟨podcast, hold, kept_or_turned_settle podcast⟩
  · rw [catalogued_with_device] at hunknown
    refine .inr ⟨url, ⟨hurl, hunknown⟩, ?_⟩
    have howner : podcast.row.userId = userId := by rw [hrow]; rfl
    have hadded : urls.contains url = true := List.contains_iff_mem.mpr hurl
    have hside : (side ended false podcast.row.url).or (side urls.contains true podcast.row.url) =
        some true := by
      have haddress : podcast.row.url = url := by rw [hrow]; rfl
      rw [haddress, side, side, hdisjoint url hadded, hadded]
      rfl
    rw [settle_of_some howner hside, hrow]
    rfl

/-- The device is known after an upload. -/
theorem Uploaded.find_device {wanted : Set String} {update : SubscriptionUpdate}
    (huploaded : store.Uploaded next userId device time wanted update) :
    (next.findDevice? userId device).isSome := by
  have hknown : ((store.withDevice userId device).findDevice? userId device).isSome :=
    find_device_with_device
  unfold findDevice? at hknown ⊢
  rwa [huploaded.devices]

/-- What an upload leaves is accounted for. -/
theorem Consistent.upload (hconsistent : store.Consistent) (huser : store.users.Has userId)
    (hname : IsName device) (hdisjoint : ∀ url, urls.contains url = true → ended url = false)
    (rewrites : List Web.Rewrite) :
    store.Uploaded (store.uploaded userId device urls ended time) userId device time
      {url | url ∈ urls} (store.uploadUpdate userId device urls ended time rewrites) where
  kept old hold := by
    rw [entries_uploaded hdisjoint]
    refine ⟨_, List.mem_map_of_mem (mem_with_podcasts ?_), kept_or_turned_settle old⟩
    rwa [podcasts_with_device]
  origin := origin_of_uploaded hdisjoint
  devices := by
    show ((store.withDevice userId device).withPodcasts userId urls).devices = _
    rw [with_podcasts_eq]
  others := by
    have hprepared : store.prepared userId device urls = { store with
        devices := (store.prepared userId device urls).devices
        podcasts := (store.prepared userId device urls).podcasts } := by
      unfold prepared
      rw [with_podcasts_eq, with_device_eq]
    unfold uploaded turned
    rw [hprepared]
  subscribed := by
    refine ⟨fun podcast hpodcast => ?_, fun podcast hpodcast => ?_,
      (hconsistent.prepare huser hname urls).turned_rows_ascending⟩
    · obtain ⟨hmem, _, _, _, hadded⟩ := mem_of_turned_rows hpodcast
      unfold uploaded
      rw [entries_turned]
      refine List.mem_map.mpr ⟨podcast, hmem, settle_of_none (if_neg ?_)⟩
      rw [hdisjoint _ hadded]
      exact Bool.false_ne_true
    · obtain ⟨_, howner, hside, htime, _⟩ := mem_of_turned_rows hpodcast
      exact ⟨howner, hside, htime⟩
  unsubscribed := by
    refine ⟨fun podcast hpodcast => ?_, fun podcast hpodcast => ?_,
      (hconsistent.prepare huser hname urls).turned_rows_ascending⟩
    · unfold uploadUpdate at hpodcast
      rw [← turned_rows_turned hdisjoint] at hpodcast
      exact (mem_of_turned_rows hpodcast).1
    · obtain ⟨_, howner, hside, htime, _⟩ := mem_of_turned_rows hpodcast
      exact ⟨howner, hside, htime⟩

end Store

end PodcastLedger
