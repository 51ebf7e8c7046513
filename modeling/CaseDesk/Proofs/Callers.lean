/-
  Who callers are, and who may use a method.

  * `authorize_eq_ok`: who may use a method.
  * `Headers.Reads`: the text that a header has.
  * `Headers.NamesUser`, `Headers.Grant`: the user whom headers name, and what
    they grant.
  * `Authenticator.identify_cases`, `Authenticator.identify_of_namesUser`: this
    user is identified, or the superuser that stands for unknown callers, and
    nobody else; `Authenticator.unauthenticated_of_error`: who is not is told so.
-/
import CaseDesk.Access.Authenticator
import CaseDesk.Proofs.Grants

namespace CaseDesk

open Text

/-! ## Users -/

namespace Caller

theorem isUser_iff {caller : Caller} {who : Option Lookup} :
    caller.isUser who = true ↔ ∃ user, who = some user ∧ user.id = caller.user.id := by
  cases who with
  | none => simp [isUser]
  | some user => simp [isUser]

theorem authorize_eq_ok {caller : Caller} {service method : String} :
    caller.authorize service method = .ok () ↔
      ∃ s m, Registry.method? service method = some (s, m) ∧
        caller.grants.allows s.objclass m.access = true := by
  unfold authorize
  rcases Registry.method? service method with _ | ⟨s, m⟩
  · simp
  · constructor
    · intro h
      dsimp only at h
      split at h
      · exact ⟨s, m, rfl, ‹_›⟩
      · cases h
    · rintro ⟨s', m', he, hallows⟩
      cases he
      exact if_pos hallows

end Caller

theorem authorize_eq_ok {known : Option Caller} {service method : String} {caller : Caller} :
    authorize known service method = .ok caller ↔
      known = some caller ∧ caller.authorize service method = .ok () := by
  cases known with
  | none => simp [authorize]
  | some c =>
    change c.authorize service method >>= (fun _ => pure c) = .ok caller ↔ _
    rw [bind_eq_ok]
    constructor
    · rintro ⟨_, h, hc⟩
      cases hc
      exact ⟨rfl, h⟩
    · rintro ⟨hc, h⟩
      cases hc
      exact ⟨(), h, rfl⟩

/-! ## Headers -/

namespace Headers

variable {headers : Headers} {name : String}

/-- The first value of a header is ASCII, and this is its text without the blanks around it. -/
def Reads (headers : Headers) (name : String) (text : List Char) : Prop :=
  ∃ bytes, headers.value? name = some bytes ∧ (∀ b ∈ bytes, isPrintable b = true) ∧
    text = trimChars (bytes.map fun b => Char.ofNat b.toNat)

theorem text?_eq_none : headers.text? name = .ok none ↔ headers.value? name = none := by
  unfold text?
  cases headers.value? name with
  | none => simp
  | some bytes => by_cases h : bytes.all isPrintable = true <;> simp [h]

theorem text?_eq_some {text : List Char} :
    headers.text? name = .ok (some text) ↔ headers.Reads name text := by
  unfold text?
  constructor
  · intro h
    split at h
    · cases h
    · next bytes hbytes =>
      split at h
      · next hall =>
        cases h
        exact ⟨bytes, hbytes, List.all_eq_true.1 hall, rfl⟩
      · cases h
  · rintro ⟨bytes, hbytes, hall, rfl⟩
    simp only [hbytes, List.all_eq_true.2 hall, if_true]

/-- Of a header that is there at most one text can be read. -/
theorem Reads.unique {text text' : List Char} (h : headers.Reads name text)
    (h' : headers.Reads name text') : text = text' := by
  have := (text?_eq_some.2 h).symm.trans (text?_eq_some.2 h')
  simpa using this

theorem exists_text? : (∃ text?, headers.text? name = .ok text?) ↔
    headers.value? name = none ∨ ∃ text, headers.Reads name text := by
  simp only [Option.exists, text?_eq_none, text?_eq_some]

theorem text?_eq_error {e : ServiceError} (h : headers.text? name = .error e) :
    e = .headerNotAscii name := by
  unfold text? at h
  split at h
  · cases h
  · split at h <;> cases h
    rfl

/-- What the access header grants: nothing without it, and what its text says if that can be
    read. -/
theorem grants_eq_ok {g : Grants} : headers.grants = .ok g ↔
    headers.value? access = none ∧ g = {} ∨
      ∃ text, headers.Reads access text ∧ Grants.parse (String.ofList text) = .ok g := by
  unfold grants
  rw [bind_eq_ok]
  constructor
  · rintro ⟨_ | text, htext, h⟩
    · cases h
      exact Or.inl ⟨text?_eq_none.1 htext, rfl⟩
    · refine Or.inr ⟨text, text?_eq_some.1 htext, ?_⟩
      dsimp only at h
      cases hparse : Grants.parse (String.ofList text) with
      | error why => rw [hparse] at h; cases h
      | ok g' => rw [hparse] at h; cases h; rfl
  · rintro (⟨hnone, rfl⟩ | ⟨text, htext, hparse⟩)
    · exact ⟨none, text?_eq_none.2 hnone, rfl⟩
    · refine ⟨some text, text?_eq_some.2 htext, ?_⟩
      dsimp only
      rw [hparse]
      rfl

/-- The access header can be read: it is not there, or each entry of its text can be read. -/
def GrantsReadable (headers : Headers) : Prop :=
  headers.value? access = none ∨ ∃ text, headers.Reads access text ∧
    ∀ entry ∈ Grants.entries (String.ofList text), Grants.IsEntry entry

/-- Some entry of the access header grants a level on a class. -/
def Grant (headers : Headers) (objclass : String) (level : Access) : Prop :=
  ∃ text, headers.Reads access text ∧
    ∃ entry ∈ Grants.entries (String.ofList text), Grants.EntryAllows entry objclass level

theorem exists_grants : (∃ g, headers.grants = .ok g) ↔ headers.GrantsReadable := by
  simp only [grants_eq_ok, GrantsReadable, ← Grants.exists_parse]
  constructor
  · rintro ⟨g, ⟨hnone, -⟩ | ⟨text, htext, hparse⟩⟩
    · exact Or.inl hnone
    · exact Or.inr ⟨text, htext, g, hparse⟩
  · rintro (hnone | ⟨text, htext, g, hparse⟩)
    · exact ⟨{}, Or.inl ⟨hnone, rfl⟩⟩
    · exact ⟨g, Or.inr ⟨text, htext, hparse⟩⟩

theorem allows_grants {g : Grants} (h : headers.grants = .ok g) {objclass : String}
    {level : Access} : g.allows objclass level = true ↔ headers.Grant objclass level := by
  rcases grants_eq_ok.1 h with ⟨hnone, rfl⟩ | ⟨text, htext, hparse⟩
  · constructor
    · intro hallows
      cases hallows
    · rintro ⟨_, ⟨_, hsome, -⟩, -⟩
      cases hnone.symm.trans hsome
  · rw [Grants.allows_parse hparse]
    constructor
    · exact fun hentry => ⟨text, htext, hentry⟩
    · rintro ⟨text', htext', hentry⟩
      rwa [htext.unique htext']

/-- The headers name a user: the id is positive, and whatever else is said of the user can be
    read. -/
structure NamesUser (headers : Headers) (id : Int) : Prop where
  userId : ∃ text, headers.Reads Headers.userId text ∧ readInt64? text = some id
  pos : 0 < id
  userName : headers.value? Headers.userName = none ∨ ∃ text, headers.Reads Headers.userName text
  access : headers.GrantsReadable

end Headers

/-! ## Identities -/

namespace Authenticator

open Headers

theorem readUserId_eq_ok {text : List Char} {id : Int} :
    readUserId text = .ok id ↔ readInt64? text = some id ∧ 0 < id := by
  unfold readUserId
  constructor
  · intro h
    split at h
    · next n hn =>
      cases h
      rw [Option.filter_eq_some_iff] at hn
      exact ⟨hn.1, by simpa using hn.2⟩
    · cases h
  · rintro ⟨htext, hpos⟩
    simp only [htext, Option.filter_some, hpos, decide_true, if_true]

/-- The caller that headers identify. -/
inductive Identifies (auth : Authenticator) (headers : Headers) : Caller → Prop
  | anonymous (hid : headers.value? userId = none) (hallow : auth.allowAnonymous = true) :
      Identifies auth headers .anonymous
  | user {raw : List Char} {id : Int} {name : Option (List Char)} {grants : Grants}
      (hid : headers.Reads userId raw) (hnumber : readInt64? raw = some id) (hpos : 0 < id)
      (hname : headers.text? userName = .ok name) (hgrants : headers.grants = .ok grants) :
      Identifies auth headers ⟨⟨id, String.ofList (name.getD [])⟩, grants⟩

variable {auth : Authenticator} {headers : Headers}

theorem identify_eq_ok {caller : Caller} :
    auth.identify headers = .ok caller ↔ auth.Identifies headers caller := by
  unfold identify
  rw [bind_eq_ok]
  constructor
  · rintro ⟨_ | raw, hid, h⟩
    · dsimp only at h
      split at h
      · cases h
        exact .anonymous (text?_eq_none.1 hid) ‹_›
      · cases h
    · obtain ⟨id, hnumber, h⟩ := bind_eq_ok.1 h
      obtain ⟨name, hname, h⟩ := bind_eq_ok.1 h
      obtain ⟨grants, hgrants, h⟩ := bind_eq_ok.1 h
      cases h
      obtain ⟨hnumber, hpos⟩ := readUserId_eq_ok.1 hnumber
      exact .user (text?_eq_some.1 hid) hnumber hpos hname hgrants
  · intro h
    cases h with
    | anonymous hid hallow => exact ⟨none, text?_eq_none.2 hid, if_pos hallow⟩
    | @user raw id name grants hid hnumber hpos hname hgrants =>
      refine ⟨some raw, text?_eq_some.2 hid, ?_⟩
      exact bind_eq_ok.2 ⟨id, readUserId_eq_ok.2 ⟨hnumber, hpos⟩,
        bind_eq_ok.2 ⟨name, hname, bind_eq_ok.2 ⟨grants, hgrants, rfl⟩⟩⟩

/-- Who is identified is the superuser that stands for unknown callers, or the user whom the headers
    name, with the grants that they give. -/
theorem identify_cases {caller : Caller} (h : auth.identify headers = .ok caller) :
    headers.value? userId = none ∧ auth.allowAnonymous = true ∧ caller = .anonymous ∨
      headers.NamesUser caller.user.id ∧ headers.grants = .ok caller.grants := by
  cases identify_eq_ok.1 h with
  | anonymous hid hallow => exact Or.inl ⟨hid, hallow, rfl⟩
  | @user raw id name grants hid hnumber hpos hname hgrants =>
    refine Or.inr ⟨⟨⟨raw, hid, hnumber⟩, hpos, ?_, ?_⟩, hgrants⟩
    · exact exists_text?.1 ⟨name, hname⟩
    · exact exists_grants.1 ⟨grants, hgrants⟩

/-- The user whom the headers name is identified. -/
theorem identify_of_namesUser {id : Int} (h : headers.NamesUser id) :
    ∃ caller, auth.identify headers = .ok caller ∧ caller.user.id = id ∧
      headers.grants = .ok caller.grants := by
  obtain ⟨⟨raw, hid, hnumber⟩, hpos, hname, haccess⟩ := h
  obtain ⟨name, hname⟩ := exists_text?.2 hname
  obtain ⟨grants, hgrants⟩ := exists_grants.2 haccess
  exact ⟨_, identify_eq_ok.2 (.user hid hnumber hpos hname hgrants), rfl, hgrants⟩

/-- Who is not identified is told so. -/
theorem unauthenticated_of_error {e : ServiceError} (h : auth.identify headers = .error e) :
    e.AtDoor ∧ e.status.code = .unauthenticated := by
  have htext : ∀ name, headers.text? name = .error e →
      e.AtDoor ∧ e.status.code = .unauthenticated := by
    intro name hname
    cases text?_eq_error hname
    exact ⟨trivial, rfl⟩
  unfold identify at h
  rcases bind_eq_error.1 h with hid | ⟨_ | raw, -, h⟩
  · exact htext _ hid
  · dsimp only at h
    split at h <;> cases h
    exact ⟨trivial, rfl⟩
  rcases bind_eq_error.1 h with hnumber | ⟨_, -, h⟩
  · unfold readUserId at hnumber
    split at hnumber <;> cases hnumber
    exact ⟨trivial, rfl⟩
  rcases bind_eq_error.1 h with hname | ⟨_, -, h⟩
  · exact htext _ hname
  rcases bind_eq_error.1 h with hgrants | ⟨_, -, h⟩
  · unfold Headers.grants at hgrants
    rcases bind_eq_error.1 hgrants with haccess | ⟨_ | text, -, hparse⟩
    · exact htext _ haccess
    · cases hparse
    · dsimp only at hparse
      split at hparse <;> cases hparse
      exact ⟨trivial, rfl⟩
  · cases h

end Authenticator

end CaseDesk
