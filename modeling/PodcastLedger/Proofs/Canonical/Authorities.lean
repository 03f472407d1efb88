import PodcastLedger.Proofs.Canonical.Hosts
import PodcastLedger.Proofs.Outcome
import PodcastLedger.Web.Authority

/-!
# Written authorities

An authority that is written and read again is the same but for its host, which is read on its own:
`Authority.parse_with_to_text`. The user name and password are encoded already, the host keeps its
brackets and colons to itself, and a port that is written is neither the usual one nor too great.
-/

namespace PodcastLedger.Web

/-! ## User names and passwords -/

namespace UserInfo

variable {userInfo : UserInfo}

/-- The user name and password are encoded. -/
structure Encoded (userInfo : UserInfo) : Prop where
  user : ∀ c ∈ userInfo.user, Percent.isEscapedInUserInfo c = false
  password : ∀ c ∈ userInfo.password, Percent.isEscapedInUserInfo c = false

/-- What stands in front of the `@`. -/
def body (userInfo : UserInfo) : List Char :=
  userInfo.user ++ if userInfo.password = [] then [] else ':' :: userInfo.password

/-- The `@` is written if something stands in front of it. -/
theorem to_text_eq (userInfo : UserInfo) :
    userInfo.toText = if userInfo.body = [] then [] else userInfo.body ++ ['@'] := rfl

/-- What is read is encoded. -/
theorem encoded_parse (text : List Char) : (UserInfo.parse text).Encoded where
  user _ := Percent.escaped_of_mem_encode Percent.spares_user_info
  password _ := Percent.escaped_of_mem_encode Percent.spares_user_info

/-- A user name and password that are written and read again are the same. -/
theorem parse_body (hencoded : userInfo.Encoded) : UserInfo.parse userInfo.body = userInfo := by
  obtain ⟨user, password⟩ := userInfo
  obtain ⟨huser, hpassword⟩ := hencoded
  dsimp only at huser hpassword
  have hcolon : ∀ c ∈ user, (c != ':') = true := by
    intro c hmem
    refine bne_iff_ne.mpr ?_
    rintro rfl
    exact absurd (huser ':' hmem) (by decide)
  unfold UserInfo.parse body
  dsimp only
  rw [List.takeWhile_append_of_pos hcolon, List.dropWhile_append_of_pos hcolon]
  split
  · next hempty =>
      subst hempty
      rw [List.takeWhile_nil, List.append_nil, Percent.encode_of_plain huser]
      rfl
  · rw [List.takeWhile_cons_of_neg (by decide), List.append_nil,
      List.dropWhile_cons_of_neg (by decide), Percent.encode_of_plain huser]
    show UserInfo.mk user (Percent.encode Percent.isEscapedInUserInfo password) = _
    rw [Percent.encode_of_plain hpassword]

/-- What stands in front of the `@` consists of encoded characters and a colon. -/
theorem of_mem_body (hencoded : userInfo.Encoded) {c : Char} (hmem : c ∈ userInfo.body) :
    c = ':' ∨ Percent.isEscapedInUserInfo c = false := by
  rcases List.mem_append.mp hmem with huser | hrest
  · exact .inr (hencoded.user c huser)
  · split at hrest
    · cases hrest
    · rcases List.mem_cons.mp hrest with rfl | hpassword
      · exact .inl rfl
      · exact .inr (hencoded.password c hpassword)

end UserInfo

namespace Authority

variable {authority : Authority} {usual : Option Nat}

/-- The user name and password are told from the host at the `@`. -/
theorem split_user_info (userInfo : UserInfo) {rest : List Char} (hrest : '@' ∉ rest) :
    splitUserInfo (userInfo.toText ++ rest) = (userInfo.body, rest) := by
  unfold splitUserInfo
  rw [UserInfo.to_text_eq]
  split
  · next hempty =>
      rw [hempty, List.nil_append, behind_none hrest]
      simp
  · rw [List.append_assoc, List.singleton_append, behind_last userInfo.body hrest]
    have hlength : (userInfo.body ++ '@' :: rest).length - rest.length - 1 =
        userInfo.body.length := by
      simp
      omega
    dsimp only
    rw [hlength, List.take_left]

/-! ## Ports -/

/-- A text that does not go on with a port, or goes on with one. -/
def IsPortText (text : List Char) : Prop :=
  ∀ c ∈ text.head?, c = ':'

/-- The port begins at once. -/
theorem split_port_text {text : List Char} (htext : IsPortText text) :
    splitPort false text = ([], text) := by
  cases text with
  | nil => rfl
  | cons c rest =>
      obtain rfl : c = ':' := htext c rfl
      rfl

/-- A port is told from a host without brackets at the colon. -/
theorem split_port_plain {host port : List Char} (hhost : ∀ c ∈ host, c ≠ ':' ∧ c ≠ '[')
    (hport : IsPortText port) : splitPort false (host ++ port) = (host, port) := by
  induction host with
  | nil => exact split_port_text hport
  | cons c rest ih =>
      obtain ⟨hc, hrest⟩ := List.forall_mem_cons.mp hhost
      have hbracket : (c == '[') = false := beq_eq_false_iff_ne.mpr hc.2
      rw [List.cons_append, splitPort, if_neg fun h => hc.1 h.1, hbracket]
      show (c :: (splitPort false (rest ++ port)).1, (splitPort false (rest ++ port)).2) = _
      rw [ih hrest]

/-- Colons within brackets begin no port. -/
theorem split_port_inside {text port : List Char} (htext : ']' ∉ text) (hport : IsPortText port) :
    splitPort true (text ++ ']' :: port) = (text ++ [']'], port) := by
  induction text with
  | nil =>
      show (']' :: (splitPort false port).1, (splitPort false port).2) = _
      rw [split_port_text hport]
      rfl
  | cons c rest ih =>
      obtain ⟨hc, hrest⟩ := not_or.mp (mt List.mem_cons.mpr htext)
      have hbracket : (c != ']') = true := bne_iff_ne.mpr (Ne.symm hc)
      rw [List.cons_append, splitPort, if_neg (by simp), hbracket, Bool.and_self, Bool.or_true]
      show (c :: (splitPort true (rest ++ ']' :: port)).1,
        (splitPort true (rest ++ ']' :: port)).2) = _
      rw [ih hrest]
      rfl

/-- A port is told from a host that was read. -/
theorem split_port_host {raw port : List Char} {host : Host} (hhost : Host.parse raw = .ok host)
    (hport : IsPortText port) : splitPort false (host.toText ++ port) = (host.toText, port) := by
  have hplain : ∀ c, Host.isForbidden c = false → c ≠ ':' ∧ c ≠ '[' := by
    intro c hc
    constructor
    · rintro rfl
      cases hc
    · rintro rfl
      cases hc
  rcases Host.cases_of_parse hhost with ⟨text, rfl, hname⟩ | ⟨address, rfl, _⟩ | ⟨address, rfl, _⟩
  · refine split_port_plain (fun c hmem => hplain c ?_) hport
    exact Bool.eq_false_iff.mpr (List.any_eq_false.mp hname.allowed c hmem)
  · refine split_port_plain (fun c hmem => ?_) hport
    rcases Ipv4.of_mem_to_text hmem with rfl | ⟨value, hvalue, rfl⟩
    · decide
    · have hall : ∀ value ∈ List.range 10, Nat.digitChar value ≠ ':' ∧ Nat.digitChar value ≠ '[' := by
        decide
      exact hall value (List.mem_range.mpr hvalue)
  -- The colons of an IPv6 address stand in brackets, which hold no other bracket.
  · have hbracket : ']' ∉ address.toText := by
      intro hmem
      rcases Ipv6.of_mem_to_text hmem with hcolon | ⟨value, hvalue, hdigit⟩
      · cases hcolon
      · have hall : ∀ value ∈ List.range 16, ']' ≠ Nat.digitChar value := by decide
        exact hall value (List.mem_range.mpr hvalue) hdigit
    show splitPort false ('[' :: ((address.toText ++ [']']) ++ port)) = _
    rw [List.append_assoc, List.singleton_append]
    show ('[' :: (splitPort true (address.toText ++ ']' :: port)).1,
      (splitPort true (address.toText ++ ']' :: port)).2) = _
    rw [split_port_inside hbracket hport]
    rfl

/-- The written form of a port. -/
def portText (port : Option Nat) : List Char :=
  match port with
  | none => []
  | some port => ':' :: Nat.toDigits 10 port

/-- The port is neither too great nor the usual one. -/
def IsPort (usual port : Option Nat) : Prop :=
  ∀ number ∈ port, number ≤ 65535 ∧ usual ≠ some number

/-- A port begins with a colon. -/
theorem is_port_text (port : Option Nat) : IsPortText (portText port) := by
  cases port with
  | none => nofun
  | some number =>
      intro c hc
      exact (Option.some.inj hc).symm

/-- A port that is written and read again is the same. -/
theorem parse_port_text {port : Option Nat} (hport : IsPort usual port) :
    parsePort usual ((portText port).drop 1) = .ok port := by
  cases port with
  | none =>
      show parsePort usual [] = _
      unfold parsePort
      rw [show Text.numberOf? 10 [] = some 0 from rfl]
      rfl
  | some number =>
      obtain ⟨hsmall, hunusual⟩ := hport number rfl
      show parsePort usual (Nat.toDigits 10 number) = _
      unfold parsePort
      rw [Text.number_of_to_digits (by decide) (by decide)]
      dsimp only
      rw [if_neg (Nat.not_lt.mpr hsmall), if_neg (not_or.mpr ⟨Nat.toDigits_ne_nil, hunusual⟩)]

/-- A port that is read is neither too great nor the usual one. -/
theorem is_port_of_parse {digits : List Char} {port : Option Nat}
    (hparse : parsePort usual digits = .ok port) : IsPort usual port := by
  unfold parsePort at hparse
  split at hparse
  · cases hparse
  · next number hnumber =>
      split at hparse
      · cases hparse
      · next hsmall =>
          obtain rfl := Except.ok.inj hparse
          intro other hother
          split at hother
          · cases hother
          · next hunusual =>
              obtain rfl := Option.some.inj hother
              exact ⟨Nat.le_of_not_lt hsmall, (not_or.mp hunusual).2⟩

/-! ## Authorities -/

/-- Nothing but the host of the authority can be read differently a second time. -/
structure IsRead (usual : Option Nat) (authority : Authority) : Prop where
  user_info : authority.userInfo.Encoded
  host : ∃ raw, Host.parse raw = .ok authority.host
  port : IsPort usual authority.port

/-- The `@` stands neither in the host nor in the port. -/
theorem at_not_mem (hread : authority.IsRead usual) :
    '@' ∉ authority.host.toText ++ portText authority.port := by
  obtain ⟨raw, hhost⟩ := hread.host
  intro hmem
  rcases List.mem_append.mp hmem with hmem | hmem
  · rcases Host.of_mem_to_text hhost hmem with hallowed | hbracket
    · cases hallowed
    · exact absurd hbracket (by decide)
  · cases hport : authority.port with
    | none =>
        rw [hport] at hmem
        cases hmem
    | some number =>
        rw [hport] at hmem
        rcases List.mem_cons.mp hmem with hcolon | hmem
        · cases hcolon
        · obtain ⟨value, hvalue, hdigit⟩ := Text.exists_of_mem_to_digits (by decide) hmem
          have hall : ∀ value ∈ List.range 10, '@' ≠ Nat.digitChar value := by decide
          exact hall value (List.mem_range.mpr hvalue) hdigit

/-- The written form of an authority consists of its parts. -/
theorem to_text_eq (authority : Authority) :
    authority.toText =
      authority.userInfo.toText ++ (authority.host.toText ++ portText authority.port) := by
  rw [← List.append_assoc]
  rfl

/-- The characters that end an authority, those that do not count in an address or end it, and the
null character. -/
def breaks : List Char :=
  ['/', '\\', '?', '#', '\t', '\n', '\r', '\x00']

/-- An authority that is read has no such character. -/
theorem not_mem_breaks (hread : authority.IsRead usual) {c : Char}
    (hmem : c ∈ authority.toText) : c ∉ breaks := by
  have hall : ∀ c ∈ breaks, Percent.isEscapedInUserInfo c = true ∧ Host.isForbidden c = true ∧
      c ∉ [':', '@', '[', ']'] ∧ ∀ value ∈ List.range 10, c ≠ Nat.digitChar value :=
    forall_mem_of_all (by decide)
  intro hbreaks
  obtain ⟨hescaped, hforbidden, hother, hdigits⟩ := hall c hbreaks
  rw [to_text_eq] at hmem
  rcases List.mem_append.mp hmem with hmem | hmem
  · rw [UserInfo.to_text_eq] at hmem
    split at hmem
    · cases hmem
    · rcases List.mem_append.mp hmem with hbody | hat
      · rcases UserInfo.of_mem_body hread.user_info hbody with rfl | hencoded
        · exact hother (by decide)
        · rw [hescaped] at hencoded
          cases hencoded
      · obtain rfl := List.mem_singleton.mp hat
        exact hother (by decide)
  · rcases List.mem_append.mp hmem with hhost | hport
    · obtain ⟨raw, hparse⟩ := hread.host
      rcases Host.of_mem_to_text hparse hhost with hallowed | hbracket
      · rw [hforbidden] at hallowed
        cases hallowed
      · have hincluded : ∀ c ∈ [':', '[', ']'], c ∈ [':', '@', '[', ']'] :=
          forall_mem_of_all (by decide)
        exact hother (hincluded c hbracket)
    · cases hnumber : authority.port with
      | none =>
          rw [hnumber] at hport
          cases hport
      | some number =>
          rw [hnumber] at hport
          rcases List.mem_cons.mp hport with rfl | hdigit
          · exact hother (by decide)
          · obtain ⟨value, hvalue, rfl⟩ := Text.exists_of_mem_to_digits (by decide) hdigit
            exact hdigits value (List.mem_range.mpr hvalue) rfl

/-- An authority that is written and read again is the same but for its host. -/
theorem parse_with_to_text (parseHost : List Char → Except Fault Host)
    (hread : authority.IsRead usual) :
    parseWith parseHost usual authority.toText =
      (parseHost authority.host.toText).map fun host => { authority with host } := by
  obtain ⟨raw, hhost⟩ := hread.host
  unfold parseWith
  rw [to_text_eq, split_user_info authority.userInfo (at_not_mem hread)]
  dsimp only
  rw [split_port_host hhost (is_port_text authority.port)]
  dsimp only
  -- The host alone is read by a function that is not known here.
  rw [parse_port_text hread.port, UserInfo.parse_body hread.user_info]
  cases parseHost authority.host.toText <;> rfl

/-- Where the host stands in the text of an authority. -/
def hostIn (text : List Char) : List Char :=
  (splitPort false (splitUserInfo text).2).1

/-- In an authority that is read, the user name and password are encoded, the host is read from its
place, and the port is neither too great nor the usual one. -/
theorem parse_with_ok {parseHost : List Char → Except Fault Host} {text : List Char}
    (hparse : parseWith parseHost usual text = .ok authority) :
    authority.userInfo.Encoded ∧ parseHost (hostIn text) = .ok authority.host ∧
      IsPort usual authority.port := by
  unfold parseWith at hparse
  obtain ⟨host, hhost, hparse⟩ := bind_eq_ok_iff.mp hparse
  obtain ⟨port, hport, hparse⟩ := bind_eq_ok_iff.mp hparse
  obtain rfl := Except.ok.inj hparse
  exact ⟨UserInfo.encoded_parse _, hhost, is_port_of_parse hport⟩

end Authority

end PodcastLedger.Web
