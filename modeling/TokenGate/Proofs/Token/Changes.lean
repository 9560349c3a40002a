/-
What edits leave.

An edit that goes through makes one `Change`, and its arguments alone decide which: no builder has a say
in it (`edit_of_some`).  An edit that fails makes none and leaves the builder as it is (`edit_of_none`).
`Edit.Makes` is the change of each edit without a computation: the value that is kept of a claim, a text
as one role, a duration in whole seconds, the name of an algorithm (`change?_eq_some_iff`).

* `lastWins` says what any number of changes leave.  Each setting has the value of the last change to
  it, or the old one if there is none; the names of the claims stand in the order in which they were
  first written.
* `after_comm` and `after_sameClaims` say what the order of edits is for.  Edits of different settings
  can be swapped, unless both write claims; and then the order of the claims may differ afterwards, but
  nothing else (`SameClaims`).  Later edits do not change this (`SameClaims.after`), and the tokens that
  are built differ in the order of their members (`SameClaims.build`).
-/
import TokenGate.Proofs.FirstOccurrences
import TokenGate.Proofs.Token.Edits
import TokenGate.Proofs.Token.MemberOrder

namespace TokenGate

namespace Builder

open Token

/-! ### Changes -/

/-- What an edit sets. -/
inductive Setting where
  | claim (name : String)
  | expiry
  | leeway
  | issuedAt
  | tokenId
  | algorithm
  deriving DecidableEq, Repr

/-- What an edit that goes through has set, and to which value. -/
inductive Change where
  | claim (name : String) (value : ClaimValue) (named : name ≠ "")
  | expiry (seconds : Int)
  | leeway (seconds : Int)
  | issuedAt (on : Bool)
  | tokenId (on : Bool)
  | algorithm (algorithm : Algorithm)

/-- The name of the claim, if the setting is one. -/
def Setting.name? : Setting → Option String
  | claim name => some name
  | _ => none

/-- The setting that an edit is for. -/
def Edit.setting : Edit → Setting
  | .userId _ => .claim Claim.userId
  | .roles _ => .claim Claim.roles
  | .claim name _ => .claim name
  | .expiry _ => .expiry
  | .leeway _ => .leeway
  | .issuedAt _ => .issuedAt
  | .tokenId _ => .tokenId
  | .algorithm _ => .algorithm

/-- The claim as it enters a set: it has a name, and its value is one that claims have. -/
def claimChange? (name : String) (value : Datum) : Option Change :=
  if h : name = "" then none else (ClaimValue.ofDatum? value).map fun v => .claim name v h

/-- Whole seconds: an integer, and no truth value. -/
def wholeSeconds? : Datum → Option Int
  | .int n => some n
  | _ => none

/-- The change that an edit makes, if its arguments are accepted. -/
def Edit.change? : Edit → Option Change
  | .userId value => claimChange? Claim.userId value
  | .roles value =>
    (roleItems value).toOption.bind fun items => claimChange? Claim.roles (.tuple items)
  | .claim name value => claimChange? name value
  | .expiry value => (wholeSeconds? value).map .expiry
  | .leeway value => (wholeSeconds? value).map .leeway
  | .issuedAt value => some (.issuedAt value.truth)
  | .tokenId value => some (.tokenId value.truth)
  | .algorithm value => (Algorithm.check value).toOption.map .algorithm

/-- The builder with a change made. -/
def apply (b : Builder) : Change → Builder
  | .claim name value named => { b with claims := b.claims.write name value named }
  | .expiry n => { b with policy := { b.policy with expiry := some (.int n) } }
  | .leeway n => { b with policy := { b.policy with leeway := some (.int n) } }
  | .issuedAt on => { b with policy := { b.policy with issuedAt := on } }
  | .tokenId on => { b with policy := { b.policy with tokenId := on } }
  | .algorithm a => { b with algorithm := a }

namespace Change

/-- The setting that was changed. -/
def setting : Change → Setting
  | claim name _ _ => .claim name
  | expiry _ => .expiry
  | leeway _ => .leeway
  | issuedAt _ => .issuedAt
  | tokenId _ => .tokenId
  | algorithm _ => .algorithm

/-- The claim that was written. -/
def name? (c : Change) : Option String := c.setting.name?

/-- The value that was written under a name. -/
def value? (name : String) : Change → Option ClaimValue
  | claim other value _ => if other = name then some value else none
  | _ => none

/-- The expiry that was set. -/
def expiry? : Change → Option Datum
  | expiry n => some (.int n)
  | _ => none

/-- The leeway that was set. -/
def leeway? : Change → Option Datum
  | leeway n => some (.int n)
  | _ => none

/-- Whether the second of issue was switched on or off. -/
def issuedAt? : Change → Option Bool
  | issuedAt on => some on
  | _ => none

/-- Whether ids were switched on or off. -/
def tokenId? : Change → Option Bool
  | tokenId on => some on
  | _ => none

/-- The algorithm that was set. -/
def algorithm? : Change → Option Algorithm
  | algorithm a => some a
  | _ => none

end Change

/-- An edit makes a change.  What is written as a claim is what sets keep of the value.  Roles are one
text, several texts, or the names of an object; bytes are texts only if there are none. -/
inductive Edit.Makes : Edit → Change → Prop
  | userId {value : Datum} {v : ClaimValue} (named : Claim.userId ≠ "") (kept : v.toDatum = value.kept) :
      Makes (.userId value) (.claim Claim.userId v named)
  | role (role : String) (named : Claim.roles ≠ "") :
      Makes (.roles (.text role)) (.claim Claim.roles (.texts [role]) named)
  | roles {value : Datum} {roles : List String} (named : Claim.roles ≠ "")
      (kept : value.kept = .tuple (roles.map .text)) :
      Makes (.roles value) (.claim Claim.roles (.texts roles) named)
  | roleNames (members : Record Datum) (named : Claim.roles ≠ "") :
      Makes (.roles (.dict members)) (.claim Claim.roles (.texts members.names) named)
  | noRoles (named : Claim.roles ≠ "") :
      Makes (.roles (.bytes [])) (.claim Claim.roles (.texts []) named)
  | claim {name : String} {value : Datum} {v : ClaimValue} (named : name ≠ "")
      (kept : v.toDatum = value.kept) : Makes (.claim name value) (.claim name v named)
  | expiry (n : Int) : Makes (.expiry (.int n)) (.expiry n)
  | leeway (n : Int) : Makes (.leeway (.int n)) (.leeway n)
  | issuedAt (value : Datum) : Makes (.issuedAt value) (.issuedAt value.truth)
  | tokenId (value : Datum) : Makes (.tokenId value) (.tokenId value.truth)
  | algorithm (a : Algorithm) : Makes (.algorithm (.text a.name)) (.algorithm a)

variable {b b' : Builder} {c d : Change} {e : Edit} {name : String} {value : Datum}

/-! ### The change of an edit -/

theorem claimChange?_eq_some_iff :
    claimChange? name value = some c ↔
      ∃ (named : name ≠ "") (v : ClaimValue), v.toDatum = value.kept ∧ c = .claim name v named := by
  unfold claimChange?
  split
  · next h => exact ⟨nofun, fun ⟨named, _⟩ => absurd h named⟩
  · next h =>
    simp only [Option.map_eq_some_iff, ClaimValue.ofDatum?_eq_some_iff]
    exact ⟨fun ⟨v, hv, hc⟩ => ⟨h, v, hv, hc.symm⟩, fun ⟨_, v, hv, hc⟩ => ⟨v, hv, hc.symm⟩⟩

/-- Items are roles if they are texts. -/
theorem claimChange?_roles_iff {items : List Datum} :
    claimChange? Claim.roles (.tuple items) = some c ↔
      ∃ (named : Claim.roles ≠ "") (roles : List String),
        items = roles.map .text ∧ c = .claim Claim.roles (.texts roles) named := by
  rw [claimChange?_eq_some_iff]
  constructor
  · rintro ⟨named, v, hv, rfl⟩
    cases v with
    | texts roles =>
      cases hv
      exact ⟨named, roles, rfl, rfl⟩
    | _ => cases hv
  · rintro ⟨named, roles, rfl, rfl⟩
    exact ⟨named, .texts roles, rfl, rfl⟩

theorem wholeSeconds?_eq_some_iff {n : Int} : wholeSeconds? value = some n ↔ value = .int n := by
  cases value with
  | int m => exact ⟨fun h => congrArg Datum.int (Option.some.inj h), fun h => by cases h; rfl⟩
  | _ => exact ⟨nofun, nofun⟩

theorem toOption_check_eq_some_iff {a : Algorithm} :
    (Algorithm.check value).toOption = some a ↔ value = .text a.name := by
  rw [toOption_eq_some]
  constructor
  · intro h
    rw [Algorithm.check] at h
    split at h
    · next found hfound =>
      cases h
      obtain ⟨s, hs, hname⟩ := Option.bind_eq_some_iff.1 hfound
      rw [Datum.text?_eq_some_iff.1 hs, Algorithm.ofName?_eq_some_iff.1 hname]
    · cases h
  · rintro rfl
    exact Algorithm.check_name a

theorem roles_change?_iff :
    (Edit.roles value).change? = some c ↔
      ∃ (named : Claim.roles ≠ "") (roles : List String),
        roleItems value = .ok (roles.map .text) ∧ c = .claim Claim.roles (.texts roles) named := by
  simp only [Edit.change?, Option.bind_eq_some_iff, toOption_eq_some, claimChange?_roles_iff]
  constructor
  · rintro ⟨_, hitems, named, roles, rfl, rfl⟩
    exact ⟨named, roles, hitems, rfl⟩
  · rintro ⟨named, roles, hitems, rfl⟩
    exact ⟨_, hitems, named, roles, rfl, rfl⟩

theorem map_text_inj {texts texts' : List String} :
    texts.map Datum.text = texts'.map .text ↔ texts = texts' :=
  List.map_inj_right fun _ _ h => by cases h; rfl

/-- What becomes of the value that roles are given as. -/
theorem makes_roles_iff : (Edit.roles value).change? = some c ↔ (Edit.roles value).Makes c := by
  rw [roles_change?_iff]
  constructor
  · rintro ⟨named, roles, hitems, rfl⟩
    -- each kind of value lists items in its own way
    cases value with
    | text role =>
      obtain rfl : [role] = roles := map_text_inj.1 (Except.ok.inj hitems)
      exact .role role named
    | list items | tuple items | set items =>
      cases hitems
      exact .roles named rfl
    | dict members =>
      have hnames : members.map (fun m => Datum.text m.1) = (Record.names members).map .text :=
        List.map_map.symm
      obtain rfl : Record.names members = roles :=
        map_text_inj.1 (hnames.symm.trans (Except.ok.inj hitems))
      exact .roleNames members named
    | bytes bs =>
      have hitems := Except.ok.inj hitems
      cases bs with
      | nil =>
        obtain rfl : [] = roles := map_text_inj.1 hitems
        exact .noRoles named
      | cons b bs =>
        cases roles with
        | nil => cases hitems
        | cons role roles => cases hitems
    | _ => cases hitems
  · intro h
    cases h with
    | role role named => exact ⟨named, _, rfl, rfl⟩
    | @roles _ roles named kept =>
      refine ⟨named, roles, ?_, rfl⟩
      cases value with
      | list items | tuple items | set items => exact congrArg Except.ok (Datum.tuple.inj kept)
      | _ => cases kept
    | roleNames members named => exact ⟨named, _, congrArg Except.ok List.map_map.symm, rfl⟩
    | noRoles named => exact ⟨named, _, rfl, rfl⟩

/-- **The change of an edit**, described by what it writes. -/
theorem change?_eq_some_iff : e.change? = some c ↔ e.Makes c := by
  cases e with
  | roles value => exact makes_roles_iff
  | userId value =>
    rw [Edit.change?, claimChange?_eq_some_iff]
    constructor
    · rintro ⟨named, v, hv, rfl⟩
      exact .userId named hv
    · rintro ⟨⟩
      exact ⟨_, _, ‹_›, rfl⟩
  | claim name value =>
    rw [Edit.change?, claimChange?_eq_some_iff]
    constructor
    · rintro ⟨named, v, hv, rfl⟩
      exact .claim named hv
    · rintro ⟨⟩
      exact ⟨_, _, ‹_›, rfl⟩
  | expiry value =>
    simp only [Edit.change?, Option.map_eq_some_iff, wholeSeconds?_eq_some_iff]
    constructor
    · rintro ⟨n, rfl, rfl⟩
      exact .expiry n
    · rintro ⟨⟩
      exact ⟨_, rfl, rfl⟩
  | leeway value =>
    simp only [Edit.change?, Option.map_eq_some_iff, wholeSeconds?_eq_some_iff]
    constructor
    · rintro ⟨n, rfl, rfl⟩
      exact .leeway n
    · rintro ⟨⟩
      exact ⟨_, rfl, rfl⟩
  | issuedAt value =>
    constructor
    · rintro ⟨⟩
      exact .issuedAt value
    · rintro ⟨⟩
      rfl
  | tokenId value =>
    constructor
    · rintro ⟨⟩
      exact .tokenId value
    · rintro ⟨⟩
      rfl
  | algorithm value =>
    simp only [Edit.change?, Option.map_eq_some_iff, toOption_check_eq_some_iff]
    constructor
    · rintro ⟨a, rfl, rfl⟩
      exact .algorithm a
    · rintro ⟨⟩
      exact ⟨_, rfl, rfl⟩

/-! ### One edit -/

theorem putClaim_of_some (b : Builder) (h : claimChange? name value = some c) :
    b.putClaim name value = (b.apply c, none) := by
  obtain ⟨named, v, hv, rfl⟩ := claimChange?_eq_some_iff.1 h
  rw [putClaim, ClaimSet.step, ClaimSet.put, dif_neg named, ClaimValue.ofDatum?_eq_some_iff.2 hv]
  rfl

theorem putClaim_of_none (b : Builder) (h : claimChange? name value = none) :
    ∃ f, b.putClaim name value = (b, some f) := by
  rw [putClaim, ClaimSet.step, ClaimSet.put]
  by_cases hn : name = ""
  · rw [dif_pos hn]
    exact ⟨_, rfl⟩
  · rw [claimChange?, dif_neg hn, Option.map_eq_none_iff] at h
    rw [dif_neg hn, h]
    exact ⟨_, rfl⟩

/-- **An edit makes its change**, whatever builder it is made to. -/
theorem edit_of_some (b : Builder) (h : e.change? = some c) : b.edit e = (b.apply c, none) := by
  cases e with
  | userId value => exact putClaim_of_some b h
  | claim name value => exact putClaim_of_some b h
  | roles value =>
    obtain ⟨items, hitems, h⟩ := Option.bind_eq_some_iff.1 h
    rw [edit, toOption_eq_some.1 hitems]
    exact putClaim_of_some b h
  | expiry value | leeway value =>
    obtain ⟨n, hn, rfl⟩ := Option.map_eq_some_iff.1 h
    rw [wholeSeconds?_eq_some_iff.1 hn]
    rfl
  | issuedAt value | tokenId value =>
    cases h
    rfl
  | algorithm value =>
    obtain ⟨a, ha, rfl⟩ := Option.map_eq_some_iff.1 h
    rw [edit, toOption_eq_some.1 ha]
    rfl

/-- **An edit that makes no change fails**, and the builder is as it was. -/
theorem edit_of_none (b : Builder) (h : e.change? = none) : ∃ f, b.edit e = (b, some f) := by
  cases e with
  | userId value => exact putClaim_of_none b h
  | claim name value => exact putClaim_of_none b h
  | roles value =>
    rw [edit]
    rcases hitems : roleItems value with f | items
    · exact ⟨f, rfl⟩
    · rw [Edit.change?, hitems] at h
      exact putClaim_of_none b h
  | expiry value | leeway value =>
    cases value with
    | int n => cases h
    | _ => exact ⟨_, rfl⟩
  | issuedAt value | tokenId value => cases h
  | algorithm value =>
    rw [edit]
    rcases ha : Algorithm.check value with f | a
    · exact ⟨f, rfl⟩
    · rw [Edit.change?, ha] at h
      cases h

theorem setting_of_claimChange? {name : String} {value : Datum}
    (h : claimChange? name value = some c) : c.setting = .claim name := by
  unfold claimChange? at h
  split at h
  · cases h
  · obtain ⟨v, -, rfl⟩ := Option.map_eq_some_iff.1 h
    rfl

/-- The change is one to the setting that the edit is for. -/
theorem setting_of_change? (h : e.change? = some c) : c.setting = e.setting := by
  cases e with
  | userId value => exact setting_of_claimChange? h
  | claim name value => exact setting_of_claimChange? h
  | roles value =>
    obtain ⟨items, -, h⟩ := Option.bind_eq_some_iff.1 h
    exact setting_of_claimChange? h
  | expiry value | leeway value | algorithm value =>
    obtain ⟨v, -, rfl⟩ := Option.map_eq_some_iff.1 h
    rfl
  | issuedAt value | tokenId value =>
    cases h
    rfl

/-- The change writes the claim that the edit is for, if it is for one. -/
theorem name?_of_change? (h : e.change? = some c) : c.name? = e.claim? := by
  rw [Change.name?, setting_of_change? h]
  cases e <;> rfl

/-- The builder after an edit, whether it failed or not. -/
def after (b : Builder) (e : Edit) : Builder := (b.edit e).1

theorem after_eq (b : Builder) (e : Edit) : b.after e = e.change?.elim b b.apply := by
  rw [after]
  rcases h : e.change? with - | c
  · obtain ⟨f, hf⟩ := edit_of_none b h
    rw [hf]
    rfl
  · rw [edit_of_some b h]
    rfl

/-! ### The last change wins -/

/-- What is looked at of a builder, if one change sets it to a new value or leaves it as it was, has the
last new value after any changes. -/
theorem foldl_apply {α : Type} (view : Builder → Option α) (new? : Change → Option α)
    (h : ∀ b c, view (b.apply c) = (new? c).or (view b)) (b : Builder) (changes : List Change) :
    view (changes.foldl apply b) = (changes.filterMap new?).getLast?.or (view b) := by
  induction changes generalizing b with
  | nil => rfl
  | cons c changes ih =>
    rw [List.foldl_cons, ih, h]
    rcases hc : new? c with - | a
    · rw [List.filterMap_cons_none hc, Option.none_or]
    · rw [List.filterMap_cons_some hc, List.getLast?_cons, Option.some_or, Option.or_some,
        Option.some_or]

/-- The same for what every builder has. -/
theorem foldl_apply_getD {α : Type} (view : Builder → α) (new? : Change → Option α)
    (h : ∀ b c, view (b.apply c) = (new? c).getD (view b)) (b : Builder) (changes : List Change) :
    view (changes.foldl apply b) = (changes.filterMap new?).getLast?.getD (view b) := by
  have hsome : ∀ b c, some (view (b.apply c)) = (new? c).or (some (view b)) := fun b c => by
    rw [h, Option.or_some]
  have hfold := foldl_apply (fun b => some (view b)) new? hsome b changes
  rw [Option.or_some] at hfold
  exact Option.some.inj hfold

/-- The names of claims stand in the order of their first writing. -/
theorem names_foldl_apply (b : Builder) (changes : List Change) :
    (changes.foldl apply b).claims.names =
      (b.claims.names ++ changes.filterMap Change.name?).eraseDups := by
  induction changes generalizing b with
  | nil =>
    rw [List.filterMap_nil, List.append_nil]
    exact (eraseDups_of_nodup b.claims.distinct).symm
  | cons c changes ih =>
    rw [List.foldl_cons, ih]
    cases c with
    | claim name value named =>
      rw [List.filterMap_cons_some (show (Change.claim name value named).name? = some name from rfl)]
      exact Record.eraseDups_names_set b.claims.entries name value _
    | _ => rfl

/-- The second builder is the first one with changes made: each setting has the value of the last
change to it, and names stand in the order of their first writing. -/
structure LastWins (b : Builder) (changes : List Change) (b' : Builder) : Prop where
  secret : b'.secret = b.secret
  algorithm : b'.algorithm = (changes.filterMap Change.algorithm?).getLast?.getD b.algorithm
  issuedAt : b'.policy.issuedAt =
    (changes.filterMap Change.issuedAt?).getLast?.getD b.policy.issuedAt
  tokenId : b'.policy.tokenId =
    (changes.filterMap Change.tokenId?).getLast?.getD b.policy.tokenId
  expiry : b'.policy.expiry = (changes.filterMap Change.expiry?).getLast?.or b.policy.expiry
  leeway : b'.policy.leeway = (changes.filterMap Change.leeway?).getLast?.or b.policy.leeway
  value : ∀ name, b'.claims.get? name =
    (changes.filterMap (Change.value? name)).getLast?.or (b.claims.get? name)
  names : b'.claims.names = (b.claims.names ++ changes.filterMap Change.name?).eraseDups

/-- **The last change to a setting wins.** -/
theorem lastWins (b : Builder) (changes : List Change) :
    LastWins b changes (changes.foldl apply b) where
  secret := by
    have hfold := foldl_apply_getD Builder.secret (fun _ => none) (fun b c => by cases c <;> rfl) b
      changes
    rwa [List.filterMap_none] at hfold
  algorithm := foldl_apply_getD Builder.algorithm _ (fun b c => by cases c <;> rfl) b changes
  issuedAt := foldl_apply_getD (·.policy.issuedAt) _ (fun b c => by cases c <;> rfl) b changes
  tokenId := foldl_apply_getD (·.policy.tokenId) _ (fun b c => by cases c <;> rfl) b changes
  expiry := foldl_apply (·.policy.expiry) _ (fun b c => by cases c <;> rfl) b changes
  leeway := foldl_apply (·.policy.leeway) _ (fun b c => by cases c <;> rfl) b changes
  value := fun name => by
    refine foldl_apply (·.claims.get? name) _ (fun b c => ?_) b changes
    cases c with
    | claim other value named =>
      show (b.claims.entries.set other value).get? name = _
      rw [Record.get?_set, Change.value?]
      split
      · rfl
      · rfl
    | _ => rfl
  names := names_foldl_apply b changes

/-! ### The order of edits -/

/-- The builders have the same claims, maybe in different orders, and everything else alike. -/
structure SameClaims (b b' : Builder) : Prop where
  algorithm : b.algorithm = b'.algorithm
  secret : b.secret = b'.secret
  policy : b.policy = b'.policy
  claims : b.claims.entries.Perm b'.claims.entries

theorem SameClaims.refl (b : Builder) : SameClaims b b := ⟨rfl, rfl, rfl, .refl _⟩

/-- Changes to different settings commute, unless both of them write claims. -/
theorem apply_comm (b : Builder) (h : c.setting ≠ d.setting) (hone : c.name? = none ∨ d.name? = none) :
    (b.apply c).apply d = (b.apply d).apply c := by
  cases c with
  | claim =>
    cases d with
    | claim =>
      rcases hone with hone | hone
      · cases hone
      · cases hone
    | _ => rfl
  | expiry =>
    cases d with
    | expiry => exact absurd rfl h
    | _ => rfl
  | leeway =>
    cases d with
    | leeway => exact absurd rfl h
    | _ => rfl
  | issuedAt =>
    cases d with
    | issuedAt => exact absurd rfl h
    | _ => rfl
  | tokenId =>
    cases d with
    | tokenId => exact absurd rfl h
    | _ => rfl
  | algorithm =>
    cases d with
    | algorithm => exact absurd rfl h
    | _ => rfl

/-- Of two changes to different settings it does not matter to the claims which one comes first. -/
theorem apply_sameClaims (b : Builder) (h : c.setting ≠ d.setting) :
    SameClaims ((b.apply c).apply d) ((b.apply d).apply c) := by
  -- only two claims are left, once everything that commutes is out of the way
  by_cases hone : c.name? = none ∨ d.name? = none
  · rw [apply_comm b h hone]
    exact .refl _
  obtain ⟨hc, hd⟩ := not_or.1 hone
  cases c with
  | claim name value named =>
    cases d with
    | claim name' value' named' =>
      have hne : name ≠ name' := fun he => h (congrArg Setting.claim he)
      exact ⟨rfl, rfl, rfl, Record.set_set_perm b.claims.distinct hne value value'⟩
    | _ => exact absurd rfl hd
  | _ => exact absurd rfl hc

theorem SameClaims.apply (h : SameClaims b b') (c : Change) :
    SameClaims (b.apply c) (b'.apply c) := by
  obtain ⟨halgorithm, hsecret, hpolicy, hclaims⟩ := h
  have hset : ∀ f : Policy → Policy, f b.policy = f b'.policy := fun f => congrArg f hpolicy
  cases c with
  | claim name value named =>
    exact ⟨halgorithm, hsecret, hpolicy, Record.set_perm b.claims.distinct hclaims name value⟩
  | algorithm a => exact ⟨rfl, hsecret, hpolicy, hclaims⟩
  | expiry n =>
    exact ⟨halgorithm, hsecret, hset fun p => { p with expiry := some (.int n) }, hclaims⟩
  | leeway n =>
    exact ⟨halgorithm, hsecret, hset fun p => { p with leeway := some (.int n) }, hclaims⟩
  | issuedAt on => exact ⟨halgorithm, hsecret, hset fun p => { p with issuedAt := on }, hclaims⟩
  | tokenId on => exact ⟨halgorithm, hsecret, hset fun p => { p with tokenId := on }, hclaims⟩

theorem SameClaims.after (h : SameClaims b b') (e : Edit) : SameClaims (b.after e) (b'.after e) := by
  rw [after_eq, after_eq]
  rcases e.change? with - | c
  · exact h
  · exact h.apply c

variable {e' : Edit}

/-- **Edits of different settings can be swapped**, unless both of them write claims. -/
theorem after_comm (b : Builder) (h : e.setting ≠ e'.setting)
    (hone : e.claim? = none ∨ e'.claim? = none) :
    (b.after e).after e' = (b.after e').after e := by
  simp only [after_eq]
  -- an edit that fails can stand anywhere
  rcases hc : e.change? with - | c
  · rfl
  rcases hd : e'.change? with - | d
  · rfl
  rw [← setting_of_change? hc, ← setting_of_change? hd] at h
  rw [← name?_of_change? hc, ← name?_of_change? hd] at hone
  exact apply_comm b h hone

/-- **Writing two claims the other way round changes their order at most.** -/
theorem after_sameClaims (b : Builder) (h : e.setting ≠ e'.setting) :
    SameClaims ((b.after e).after e') ((b.after e').after e) := by
  simp only [after_eq]
  rcases hc : e.change? with - | c
  · exact .refl _
  rcases hd : e'.change? with - | d
  · exact .refl _
  rw [← setting_of_change? hc, ← setting_of_change? hd] at h
  exact apply_sameClaims b h

/-- The tokens of two builders with the same claims have the same members. -/
theorem SameClaims.build (h : SameClaims b b') (clock : Number) (nextId : Nat) :
    (b.build clock nextId).nextId = (b'.build clock nextId).nextId ∧
      SameMembers b.algorithm (b.build clock nextId).outcome (b'.build clock nextId).outcome := by
  rw [Builder.build, Builder.build, ← h.algorithm, ← h.secret, ← h.policy]
  exact issue_sameMembers h.claims _ _ _ _ _

end Builder

end TokenGate
