import Mathlib.Data.List.Induction
import Mathlib.Logic.Relation
import NhaTrangLaundry.Db.Customers

/-! What the retention job may erase: a record without activity, and the activity that the job
does not see. -/

namespace NhaTrangLaundry.Db.Customers

open Lib Outcome Sorting Table Domain Catalog Canonical Domain.Customers

inductive Effect (db : Database) : Database → Prop where
  | created (c : Customer) (hfresh : ∀ c' ∈ db.customers, c'.id ≠ c.id) (hkept : c.erasedAt = none) :
      Effect db { db with customers := db.customers ++ [c] }
  | wrote (c c' : Customer) (hc : c ∈ db.customers) (hkept : c.erasedAt = none) (hid : c'.id = c.id)
      (hstore : c'.storeId = c.storeId) (herased : c'.erasedAt ≠ none → c'.personal = .erased) :
      Effect db { db with customers := put Customer.id db.customers c' }
  | linked (l : CustomerLink) (hcustomer : ∃ c ∈ db.customers, c.id = l.customerId ∧
        c.storeId = l.storeId ∧ c.erasedAt = none) :
      Effect db { db with links := db.links ++ [l] }
  | requested (r : OrderRequest) (hcustomer : ∀ customerId ∈ r.customerId, ∃ c ∈ db.customers,
        c.id = customerId ∧ c.storeId = r.storeId ∧ c.erasedAt = none) :
      Effect db { db with requests := db.requests ++ [r] }
  | ordered (o : Order) (hcustomer : ∀ customerId ∈ o.customerId, ∃ r ∈ db.requests,
        r.customerId = some customerId ∧ r.storeId = o.storeId) :
      Effect db { db with orders := db.orders ++ [o] }
  | moved (o o' : Order) (ho : o ∈ db.orders) (hid : o'.id = o.id)
      (hcustomer : o'.customerId = o.customerId) (hstore : o'.storeId = o.storeId) :
      Effect db { db with orders := put Order.id db.orders o' }
  | contacts (tickets : List (Uuid × Uuid)) (bindings : List Uuid) :
      Effect db { db with tickets, bindings }

abbrev Effects : Database → Database → Prop := Relation.ReflTransGen Effect

variable {db db' : Database} {w w' : World} {c : Customer}

section Writes

lemma profile_ok {storeId customerId : Uuid} (h : profile db storeId customerId = .ok c) :
    lookup Customer.id db.customers customerId = some c ∧ c.id = customerId ∧
      c.storeId = storeId := by
  obtain ⟨found, hfound, h⟩ := bind_ok.mp h
  obtain ⟨_, hstore, h⟩ := bind_ok.mp h
  cases h
  rw [ofOption_ok] at hfound
  exact ⟨hfound, lookup_key hfound, require_ok.mp hstore⟩

lemma create_effect {customerId storeId : Uuid} {published consent marketing : Bool} {phone : Phone}
    {name : Option Name} {address note : Option String} {kind : CustomerKind} {at_ : Int}
    (h : create db customerId storeId published consent phone name address note kind marketing at_ =
      .ok db') : Effect db db' := by
  obtain ⟨_, -, h⟩ := bind_ok.mp h
  obtain ⟨_, -, h⟩ := bind_ok.mp h
  obtain ⟨_, -, h⟩ := bind_ok.mp h
  obtain ⟨_, hfree, h⟩ := bind_ok.mp h
  cases h
  rw [require_ok, lookup, List.find?_eq_none] at hfree
  exact .created _ (fun c' hc' => by simpa using hfree c' hc') rfl

lemma erase_effect {storeId customerId : Uuid} {version : Nat} {reason : ErasureReason} {at_ : Int}
    (h : erase db storeId customerId version reason at_ = .ok db') :
    ∃ c, lookup Customer.id db.customers customerId = some c ∧ c.erasedAt = none ∧
      db' = { db with customers := put Customer.id db.customers (c.erase reason at_) } := by
  obtain ⟨c, hc, h⟩ := bind_ok.mp h
  obtain ⟨_, hkept, h⟩ := bind_ok.mp h
  obtain ⟨_, -, h⟩ := bind_ok.mp h
  cases h
  exact ⟨c, (profile_ok hc).1, require_ok.mp hkept, rfl⟩

lemma effect_erase {customerId : Uuid} (hc : lookup Customer.id db.customers customerId = some c)
    (hkept : c.erasedAt = none) (reason : ErasureReason) (at_ : Int) :
    Effect db { db with customers := put Customer.id db.customers (c.erase reason at_) } :=
  .wrote c _ (lookup_mem hc) hkept rfl rfl fun _ => rfl

lemma update_effect {storeId customerId : Uuid} {version : Nat} {changes : CustomerChanges}
    {hasAccount : Bool} {at_ : Int}
    (h : update db storeId customerId version changes hasAccount at_ = .ok db') : Effect db db' := by
  obtain ⟨c, hc, h⟩ := bind_ok.mp h
  obtain ⟨_, hkept, h⟩ := bind_ok.mp h
  obtain ⟨_, -, h⟩ := bind_ok.mp h
  obtain ⟨_, -, h⟩ := bind_ok.mp h
  obtain ⟨_, -, h⟩ := bind_ok.mp h
  obtain ⟨_, -, h⟩ := bind_ok.mp h
  cases h
  rw [require_ok] at hkept
  exact .wrote c _ (lookup_mem (profile_ok hc).1) hkept rfl rfl fun herased => absurd hkept herased

lemma link_effect {storeId customerId refId : Uuid} {kind : LinkKind}
    (h : link db storeId customerId kind refId = .ok db') : Effect db db' := by
  obtain ⟨c, hc, h⟩ := bind_ok.mp h
  obtain ⟨_, hkept, h⟩ := bind_ok.mp h
  obtain ⟨_, -, h⟩ := bind_ok.mp h
  obtain ⟨_, -, h⟩ := bind_ok.mp h
  cases h
  obtain ⟨hfound, hid, hstore⟩ := profile_ok hc
  exact .linked _ ⟨c, lookup_mem hfound, hid, hstore, require_ok.mp hkept⟩

lemma createRequest_effects {request : OrderRequest} (h : createRequest db request = .ok db') :
    Effects db db' := by
  obtain ⟨_, -, h⟩ := bind_ok.mp h
  obtain ⟨touched, htouched, h⟩ := bind_ok.mp h
  cases h
  rw [touchNamed] at htouched
  cases hnamed : request.customerId with
  | none =>
    rw [hnamed] at htouched
    cases htouched
    refine .single (.requested request fun customerId hid => ?_)
    rw [hnamed] at hid
    cases hid
  | some customerId =>
    rw [hnamed] at htouched
    obtain ⟨c, hc, htouched⟩ := bind_ok.mp htouched
    obtain ⟨_, hkept, htouched⟩ := bind_ok.mp htouched
    cases htouched
    rw [require_ok] at hkept
    obtain ⟨hfound, hid, hstore⟩ := profile_ok hc
    have hmem := lookup_mem hfound
    refine .tail (.single (.wrote c { c with lastActivityAt := max c.lastActivityAt request.createdAt }
      hmem hkept rfl rfl fun herased => absurd hkept herased)) (.requested request ?_)
    intro named hnamed'
    rw [hnamed] at hnamed'
    cases hnamed'
    refine ⟨{ c with lastActivityAt := max c.lastActivityAt request.createdAt }, ?_, hid, hstore,
      hkept⟩
    exact mem_put_self hmem rfl

lemma createOrder_effect {orderId storeId boundContactId : Uuid} {requestId : Option Uuid}
    {createdAt : Int}
    (h : createOrder db orderId storeId boundContactId requestId createdAt = .ok db') :
    Effect db db' := by
  obtain ⟨_, -, h⟩ := bind_ok.mp h
  obtain ⟨_, -, h⟩ := bind_ok.mp h
  cases h
  refine .ordered _ fun customerId hid => ?_
  replace hid : inheritedCustomer db storeId requestId = some customerId := hid
  rw [inheritedCustomer] at hid
  cases hrequest : requestId.bind (lookup OrderRequest.id db.requests) with
  | none =>
    rw [hrequest] at hid
    cases hid
  | some r =>
    rw [hrequest] at hid
    dsimp only at hid
    split_ifs at hid with hstore
    obtain ⟨_, -, hfound⟩ := Option.bind_eq_some_iff.mp hrequest
    exact ⟨r, lookup_mem hfound, hid, hstore⟩

lemma moveOrder_effect {orderId : Uuid} {commercial : CommercialOrderStatus}
    (h : moveOrder db orderId commercial = .ok db') : Effect db db' := by
  obtain ⟨o, ho, h⟩ := bind_ok.mp h
  obtain ⟨_, -, h⟩ := bind_ok.mp h
  cases h
  rw [ofOption_ok] at ho
  exact .moved o _ (lookup_mem ho) rfl rfl rfl

lemma eraseDue_ok {job : Job} {selected : Uuid × Uuid × Nat}
    (h : eraseDue db job selected = .ok db') :
    ∃ c, lookup Customer.id db.customers selected.1 = some c ∧ due db job.cutoff c ∧
      db' = { db with
        customers := put Customer.id db.customers (c.erase .retention job.asOf.instant) } := by
  obtain ⟨_, hdue, h⟩ := bind_ok.mp h
  obtain ⟨c, hc, hdue⟩ := require_ok.mp hdue
  obtain ⟨found, hfound, -, rfl⟩ := erase_effect h
  cases hfound.symm.trans hc
  exact ⟨c, hfound, hdue, rfl⟩

lemma advance_cases (db : Database) (job : Job) :
    (advance db job).1 = db ∨ ∃ c ∈ db.customers, due db job.cutoff c ∧
      (advance db job).1 = { db with
        customers := put Customer.id db.customers (c.erase .retention job.asOf.instant) } := by
  rw [advance]
  cases job.pending with
  | nil => exact .inl rfl
  | cons selected pending =>
    dsimp only
    cases herase : eraseDue db job selected with
    | ok db' =>
      obtain ⟨c, hc, hdue, rfl⟩ := eraseDue_ok herase
      exact .inr ⟨c, lookup_mem hc, hdue, rfl⟩
    | error e =>
      left
      cases e <;> rfl

lemma attempt_effects {command : Command} (h : attempt w command = .ok w') :
    Effects w.db w'.db := by
  cases command with
  | create =>
    obtain ⟨db, hdb, h⟩ := bind_ok.mp h
    cases h
    exact .single (create_effect hdb)
  | update =>
    obtain ⟨db, hdb, h⟩ := bind_ok.mp h
    cases h
    exact .single (update_effect hdb)
  | erase =>
    obtain ⟨db, hdb, h⟩ := bind_ok.mp h
    cases h
    obtain ⟨c, hc, hkept, rfl⟩ := erase_effect hdb
    exact .single (effect_erase hc hkept _ _)
  | link =>
    obtain ⟨db, hdb, h⟩ := bind_ok.mp h
    cases h
    exact .single (link_effect hdb)
  | issueTicket =>
    cases h
    exact .single (.contacts _ _)
  | bindChannel =>
    cases h
    exact .single (.contacts _ _)
  | createRequest =>
    obtain ⟨db, hdb, h⟩ := bind_ok.mp h
    cases h
    exact createRequest_effects hdb
  | createOrder =>
    obtain ⟨db, hdb, h⟩ := bind_ok.mp h
    cases h
    exact .single (createOrder_effect hdb)
  | moveOrder =>
    obtain ⟨db, hdb, h⟩ := bind_ok.mp h
    cases h
    exact .single (moveOrder_effect hdb)
  | select =>
    obtain ⟨job, -, h⟩ := bind_ok.mp h
    cases h
    exact .refl
  | eraseNext j =>
    obtain ⟨job, -, h⟩ := bind_ok.mp h
    cases h
    rcases advance_cases w.db job with hsame | ⟨c, hc, hdue, hwrote⟩
    · dsimp only
      rw [hsame]
    · dsimp only
      rw [hwrote]
      exact .single (.wrote c _ hc hdue.1 rfl rfl fun _ => rfl)

end Writes

section Keys

/-- The keys of the tables, and what their rows name. -/
structure Inv (db : Database) : Prop where
  ids : (db.customers.map Customer.id).Nodup
  erased : ∀ c ∈ db.customers, c.erasedAt ≠ none → c.personal = .erased
  links : ∀ l ∈ db.links, ∃ c ∈ db.customers, c.id = l.customerId ∧ c.storeId = l.storeId
  requests : ∀ r ∈ db.requests, ∀ customerId ∈ r.customerId,
    ∃ c ∈ db.customers, c.id = customerId ∧ c.storeId = r.storeId
  orders : ∀ o ∈ db.orders, ∀ customerId ∈ o.customerId,
    ∃ c ∈ db.customers, c.id = customerId ∧ c.storeId = o.storeId

lemma eq_of_id (hids : (db.customers.map Customer.id).Nodup) {c' : Customer}
    (hc : c ∈ db.customers) (hc' : c' ∈ db.customers) (hid : c'.id = c.id) : c' = c :=
  List.inj_on_of_nodup_map hids hc' hc hid

lemma Effect.customer (hids : (db.customers.map Customer.id).Nodup) (h : Effect db db')
    {customerId storeId : Uuid} (hc : ∃ c ∈ db.customers, c.id = customerId ∧ c.storeId = storeId) :
    ∃ c ∈ db'.customers, c.id = customerId ∧ c.storeId = storeId := by
  obtain ⟨c, hmem, hid, hstore⟩ := hc
  cases h with
  | created new => exact ⟨c, List.mem_append_left _ hmem, hid, hstore⟩
  | wrote old new hold hkept hsame hsameStore =>
    by_cases hwritten : c.id = new.id
    · obtain rfl := eq_of_id hids hold hmem (hwritten.trans hsame)
      exact ⟨new, mem_put_self hold hsame, hsame.trans hid, hsameStore.trans hstore⟩
    · exact ⟨c, (mem_put hold hsame _).mpr (.inr ⟨hmem, hwritten⟩), hid, hstore⟩
  | linked => exact ⟨c, hmem, hid, hstore⟩
  | requested => exact ⟨c, hmem, hid, hstore⟩
  | ordered => exact ⟨c, hmem, hid, hstore⟩
  | moved => exact ⟨c, hmem, hid, hstore⟩
  | contacts => exact ⟨c, hmem, hid, hstore⟩

lemma Inv.effect_created (h : Inv db) (hfresh : ∀ c' ∈ db.customers, c'.id ≠ c.id)
    (hkept : c.erasedAt = none) : Inv { db with customers := db.customers ++ [c] } where
  ids := by
    rw [List.map_append, List.map_singleton, List.nodup_append]
    refine ⟨h.ids, List.nodup_singleton _, ?_⟩
    intro id hid id' hid'
    obtain ⟨c', hc', rfl⟩ := List.mem_map.mp hid
    rw [List.mem_singleton.mp hid']
    exact hfresh c' hc'
  erased c' hc' herased := by
    rcases List.mem_append.mp hc' with hc' | hc'
    · exact h.erased c' hc' herased
    · rw [List.mem_singleton.mp hc'] at herased
      exact absurd hkept herased
  links l hl := (Effect.created c hfresh hkept).customer h.ids (h.links l hl)
  requests r hr id hid := (Effect.created c hfresh hkept).customer h.ids (h.requests r hr id hid)
  orders o ho id hid := (Effect.created c hfresh hkept).customer h.ids (h.orders o ho id hid)

lemma Inv.effect_wrote (h : Inv db) {c' : Customer} (hc : c ∈ db.customers)
    (hkept : c.erasedAt = none) (hid : c'.id = c.id) (hstore : c'.storeId = c.storeId)
    (herased : c'.erasedAt ≠ none → c'.personal = .erased) :
    Inv { db with customers := put Customer.id db.customers c' } where
  ids := by
    rw [map_key_put]
    exact h.ids
  erased r hr := by
    rcases (mem_put hc hid r).mp hr with rfl | ⟨hr, -⟩
    · exact herased
    · exact h.erased r hr
  links l hl := (Effect.wrote c c' hc hkept hid hstore herased).customer h.ids (h.links l hl)
  requests r hr id hnamed :=
    (Effect.wrote c c' hc hkept hid hstore herased).customer h.ids (h.requests r hr id hnamed)
  orders o ho id hnamed :=
    (Effect.wrote c c' hc hkept hid hstore herased).customer h.ids (h.orders o ho id hnamed)

lemma Inv.effect (h : Inv db) (heffect : Effect db db') : Inv db' := by
  cases heffect with
  | created c hfresh hkept => exact h.effect_created hfresh hkept
  | wrote c c' hc hkept hid hstore herased => exact h.effect_wrote hc hkept hid hstore herased
  | linked l hcustomer =>
    refine ⟨h.ids, h.erased, fun l' hl' => ?_, h.requests, h.orders⟩
    rcases List.mem_append.mp hl' with hl' | hl'
    · exact h.links l' hl'
    · rw [List.mem_singleton.mp hl']
      obtain ⟨c, hc, hid, hstore, -⟩ := hcustomer
      exact ⟨c, hc, hid, hstore⟩
  | requested r hcustomer =>
    refine ⟨h.ids, h.erased, h.links, fun r' hr' => ?_, h.orders⟩
    rcases List.mem_append.mp hr' with hr' | hr'
    · exact h.requests r' hr'
    · rw [List.mem_singleton.mp hr']
      intro customerId hnamed
      obtain ⟨c, hc, hid, hstore, -⟩ := hcustomer customerId hnamed
      exact ⟨c, hc, hid, hstore⟩
  | ordered o hcustomer =>
    refine ⟨h.ids, h.erased, h.links, h.requests, fun o' ho' => ?_⟩
    rcases List.mem_append.mp ho' with ho' | ho'
    · exact h.orders o' ho'
    · rw [List.mem_singleton.mp ho']
      intro customerId hnamed
      obtain ⟨r, hr, hcustomer, hstore⟩ := hcustomer customerId hnamed
      rw [← hstore]
      exact h.requests r hr customerId hcustomer
  | moved o o' ho hid hcustomer hstore =>
    refine ⟨h.ids, h.erased, h.links, h.requests, fun r hr => ?_⟩
    rcases (mem_put ho hid r).mp hr with rfl | ⟨hr, -⟩
    · rw [hcustomer, hstore]
      exact h.orders o ho
    · exact h.orders r hr
  | contacts => exact ⟨h.ids, h.erased, h.links, h.requests, h.orders⟩

lemma Inv.effects (h : Inv db) (heffects : Effects db db') : Inv db' := by
  induction heffects with
  | refl => exact h
  | tail _ hlast ih => exact ih.effect hlast

lemma inv_emptyWorld : Inv emptyWorld.db where
  ids := List.nodup_nil
  erased _ hc := absurd hc List.not_mem_nil
  links _ hl := absurd hl List.not_mem_nil
  requests _ hr := absurd hr List.not_mem_nil
  orders _ ho := absurd ho List.not_mem_nil

lemma inv_run (commands : List Command) : Inv (run commands).db := by
  induction commands using List.reverseRecOn with
  | nil => exact inv_emptyWorld
  | append_singleton commands command ih =>
    rw [run, List.foldl_append, List.foldl_cons, List.foldl_nil, apply]
    cases hattempt : attempt (commands.foldl apply emptyWorld) command with
    | error e => exact ih
    | ok w' => exact Inv.effects ih (attempt_effects hattempt)

end Keys

section Final

def linksOf (db : Database) (customerId : Uuid) : List CustomerLink :=
  db.links.filter fun l => l.customerId = customerId

def requestsOf (db : Database) (customerId : Uuid) : List OrderRequest :=
  db.requests.filter fun r => r.customerId = some customerId

/-- An erased record stays as it is, and nothing is attached to it. -/
def Final (db db' : Database) (c : Customer) : Prop :=
  c ∈ db'.customers ∧ linksOf db' c.id = linksOf db c.id ∧ requestsOf db' c.id = requestsOf db c.id

lemma filter_snoc {α : Type} {p : α → Bool} {l : List α} {a : α} (h : p a = false) :
    (l ++ [a]).filter p = l.filter p := by
  rw [List.filter_append, List.filter_singleton, h]
  exact List.append_nil _

lemma final_effect (hids : (db.customers.map Customer.id).Nodup) (hc : c ∈ db.customers)
    (herased : c.erasedAt ≠ none) (heffect : Effect db db') : Final db db' c := by
  have hother : ∀ c' ∈ db.customers, c'.erasedAt = none → c'.id ≠ c.id := by
    intro c' hc' hkept hid
    rw [eq_of_id hids hc hc' hid] at hkept
    exact herased hkept
  cases heffect with
  | created => exact ⟨List.mem_append_left _ hc, rfl, rfl⟩
  | wrote old new hold hkept hid =>
    have hne : c.id ≠ new.id := fun he => hother old hold hkept (hid.symm.trans he.symm)
    exact ⟨(mem_put hold hid _).mpr (.inr ⟨hc, hne⟩), rfl, rfl⟩
  | linked l hcustomer =>
    obtain ⟨c', hc', hid, -, hkept⟩ := hcustomer
    refine ⟨hc, filter_snoc (decide_eq_false fun he => ?_), rfl⟩
    exact hother c' hc' hkept (hid.trans he)
  | requested r hcustomer =>
    refine ⟨hc, rfl, filter_snoc (decide_eq_false fun he => ?_)⟩
    obtain ⟨c', hc', hid, -, hkept⟩ := hcustomer c.id he
    exact hother c' hc' hkept hid
  | ordered => exact ⟨hc, rfl, rfl⟩
  | moved => exact ⟨hc, rfl, rfl⟩
  | contacts => exact ⟨hc, rfl, rfl⟩

lemma final_effects (h : Inv db) (hc : c ∈ db.customers) (herased : c.erasedAt ≠ none)
    (heffects : Effects db db') : Final db db' c := by
  induction heffects with
  | refl => exact ⟨hc, rfl, rfl⟩
  | tail hearlier hlast ih =>
    obtain ⟨hmem, hlinks, hrequests⟩ := ih
    obtain ⟨hmem', hlinks', hrequests'⟩ := final_effect (h.effects hearlier).ids hmem herased hlast
    exact ⟨hmem', hlinks'.trans hlinks, hrequests'.trans hrequests⟩

end Final

section Spared

def Linked (db : Database) (c : Customer) (refId : Uuid) : Prop :=
  ∃ l ∈ db.links, l.customerId = c.id ∧ l.refId = refId

/-- No order taken for the record or under a reference linked to it is open or newer than the
cutoff, and no intake is newer. -/
def Quiet (db : Database) (c : Customer) (cutoff : Int) : Prop :=
  (∀ o ∈ db.orders, o.customerId = some c.id ∨ Linked db c o.boundContactId →
      ¬ o.isOpen ∧ o.createdAt ≤ cutoff) ∧
    ∀ r ∈ db.requests, r.customerId = some c.id ∨ Linked db c r.contactBindingId →
      r.createdAt ≤ cutoff

/-- The activity that `RETENTION_DUE_SQL` does not read: intakes under a linked reference, and
orders of other stores under one. -/
def UnreadQuiet (db : Database) (c : Customer) (cutoff : Int) : Prop :=
  (∀ r ∈ db.requests, Linked db c r.contactBindingId → r.createdAt ≤ cutoff) ∧
    ∀ o ∈ db.orders, o.storeId ≠ c.storeId → Linked db c o.boundContactId →
      ¬ o.isOpen ∧ o.createdAt ≤ cutoff

lemma Inv.linkedRef_iff (h : Inv db) (hc : c ∈ db.customers) (refId : Uuid) :
    linkedRef db c refId ↔ Linked db c refId := by
  constructor
  · rintro ⟨l, hl, hid, -, href⟩
    exact ⟨l, hl, hid, href⟩
  · rintro ⟨l, hl, hid, href⟩
    obtain ⟨c', hc', hid', hstore⟩ := h.links l hl
    rw [eq_of_id h.ids hc hc' (hid'.trans hid)] at hstore
    exact ⟨l, hl, hid, hstore.symm, href⟩

lemma Inv.quiet_iff (h : Inv db) (hc : c ∈ db.customers) {cutoff : Int} (hdue : due db cutoff c) :
    Quiet db c cutoff ↔ UnreadQuiet db c cutoff := by
  obtain ⟨-, -, horders, hrequests⟩ := hdue
  constructor
  · rintro ⟨hquiet, hquiet'⟩
    exact ⟨fun r hr hlinked => hquiet' r hr (.inr hlinked),
      fun o ho _ hlinked => hquiet o ho (.inr hlinked)⟩
  · rintro ⟨hunread, hunread'⟩
    refine ⟨fun o ho htaken => ?_, fun r hr htaken => ?_⟩
    · by_cases hstore : o.storeId = c.storeId
      · have hread : ¬ (cutoff < o.createdAt ∨ o.isOpen) := fun hactive =>
          horders o ho hstore hactive (htaken.imp_right (h.linkedRef_iff hc _).mpr)
        rw [not_or, not_lt] at hread
        exact ⟨hread.2, hread.1⟩
      · rcases htaken with hnamed | hlinked
        · obtain ⟨c', hc', hid, hstore'⟩ := h.orders o ho c.id hnamed
          rw [eq_of_id h.ids hc hc' hid] at hstore'
          exact absurd hstore'.symm hstore
        · exact hunread' o ho hstore hlinked
    · rcases htaken with hnamed | hlinked
      · exact not_lt.mp (hrequests r hr hnamed)
      · exact hunread r hr hlinked

lemma erased_due (h : Inv db) {job : Job} (hc : c ∈ db.customers) (hkept : c.erasedAt = none)
    {c' : Customer} (hc' : c' ∈ (advance db job).1.customers) (hid : c'.id = c.id)
    (herased : c'.erasedAt ≠ none) :
    due db job.cutoff c ∧ c'.erasedAt = some job.asOf.instant := by
  rcases advance_cases db job with hsame | ⟨found, hfound, hdue, hwrote⟩
  · rw [hsame] at hc'
    rw [eq_of_id h.ids hc hc' hid] at herased
    exact absurd hkept herased
  · rw [hwrote] at hc'
    have hid' : (found.erase .retention job.asOf.instant).id = found.id := rfl
    rcases (mem_put hfound hid' c').mp hc' with rfl | ⟨hc', -⟩
    · rw [eq_of_id h.ids hfound hc hid.symm]
      exact ⟨hdue, rfl⟩
    · rw [eq_of_id h.ids hc hc' hid] at herased
      exact absurd hkept herased

end Spared

section DryRun

/-- Every record that the job has selected is still due, as it was selected. -/
structure Ready (db : Database) (job : Job) : Prop where
  ids : (db.customers.map Customer.id).Nodup
  distinct : (job.pending.map Prod.fst).Nodup
  due : ∀ s ∈ job.pending, ∃ c ∈ db.customers, s = (c.id, c.storeId, c.rowVersion) ∧
    due db job.cutoff c

def erasing (customers : List Customer) (ids : List Uuid) (at_ : Int) : List Customer :=
  customers.map fun c => if c.id ∈ ids then c.erase .retention at_ else c

lemma eraseDue_succeeds (hids : (db.customers.map Customer.id).Nodup) (hc : c ∈ db.customers)
    {job : Job} (hdue : due db job.cutoff c) :
    eraseDue db job (c.id, c.storeId, c.rowVersion) = .ok { db with
      customers := put Customer.id db.customers (c.erase .retention job.asOf.instant) } := by
  have hfound : lookup Customer.id db.customers c.id = some c := lookup_of_mem hids hc
  have hprofile : profile db c.storeId c.id = .ok c := by
    rw [profile, hfound]
    exact bind_ok.mpr ⟨c, rfl, bind_ok.mpr ⟨(), require_ok.mpr rfl, rfl⟩⟩
  rw [eraseDue, require_true ⟨c, hfound, hdue⟩, ok_bind, erase, hprofile, ok_bind,
    require_true hdue.1, ok_bind, require_true rfl]
  rfl

lemma put_erase (hids : (db.customers.map Customer.id).Nodup) (hc : c ∈ db.customers) (at_ : Int) :
    put Customer.id db.customers (c.erase .retention at_) = erasing db.customers [c.id] at_ := by
  rw [put, erasing]
  refine List.map_congr_left fun r hr => ?_
  have hid : (c.erase .retention at_).id = c.id := rfl
  rw [hid]
  by_cases h : r.id = c.id
  · rw [if_pos h, if_pos (List.mem_singleton.mpr h), eq_of_id hids hc hr h]
  · rw [if_neg h, if_neg (List.mem_singleton.not.mpr h)]

lemma erasing_cons {customers : List Customer} {id : Uuid} {ids : List Uuid} {at_ : Int}
    (hid : id ∉ ids) :
    erasing (erasing customers [id] at_) ids at_ = erasing customers (id :: ids) at_ := by
  rw [erasing, erasing, erasing, List.map_map]
  refine List.map_congr_left fun c _ => ?_
  rw [Function.comp_apply]
  by_cases h : c.id = id
  · have hkept : (c.erase .retention at_).id ∉ ids := by
      rw [← h] at hid
      exact hid
    rw [if_pos (List.mem_singleton.mpr h), if_neg hkept, if_pos (List.mem_cons.mpr (.inl h))]
  · rw [if_neg (List.mem_singleton.not.mpr h)]
    by_cases hrest : c.id ∈ ids
    · rw [if_pos hrest, if_pos (List.mem_cons_of_mem _ hrest)]
    · rw [if_neg hrest, if_neg (List.not_mem_cons_of_ne_of_not_mem h hrest)]

lemma erasing_nil (customers : List Customer) (at_ : Int) : erasing customers [] at_ = customers := by
  rw [erasing]
  exact (List.map_congr_left fun c _ => if_neg List.not_mem_nil).trans (List.map_id _)

lemma Ready.next {job : Job} {s : Uuid × Uuid × Nat} {pending : List (Uuid × Uuid × Nat)}
    (h : Ready db job) (hpending : job.pending = s :: pending) (hc : c ∈ db.customers)
    (hs : s = (c.id, c.storeId, c.rowVersion)) (erased : List Uuid) :
    Ready { db with customers := put Customer.id db.customers (c.erase .retention job.asOf.instant) }
      ⟨job.asOf, job.cutoff, pending, erased⟩ where
  ids := by
    rw [map_key_put]
    exact h.ids
  distinct := by
    have hdistinct := h.distinct
    rw [hpending, List.map_cons, List.nodup_cons] at hdistinct
    exact hdistinct.2
  due t ht := by
    have hdistinct := h.distinct
    rw [hpending, List.map_cons, List.nodup_cons] at hdistinct
    obtain ⟨c', hc', rfl, hdue⟩ := h.due t (by rw [hpending]; exact List.mem_cons_of_mem _ ht)
    have hne : c'.id ≠ c.id := fun he => by
      rw [hs] at hdistinct
      exact hdistinct.1 (List.mem_map.mpr ⟨_, ht, he⟩)
    have hid : (c.erase .retention job.asOf.instant).id = c.id := rfl
    exact ⟨c', (mem_put hc hid c').mpr (.inr ⟨hc', hne⟩), rfl, hdue⟩

lemma foldl_eraseNext (n : Nat) {db : Database} {jobs : List Job} {job : Job}
    (hlength : job.pending.length ≤ n) (hready : Ready db job) :
    (List.replicate n (Command.eraseNext jobs.length)).foldl apply ⟨db, jobs ++ [job]⟩ =
      ⟨{ db with
        customers := erasing db.customers (job.pending.map Prod.fst) job.asOf.instant },
        jobs ++ [⟨job.asOf, job.cutoff, [], job.erased ++ job.pending.map Prod.fst⟩]⟩ := by
  induction n generalizing db job with
  | zero =>
    have hpending : job.pending = [] := List.length_eq_zero_iff.mp (Nat.le_zero.mp hlength)
    rw [hpending, List.map_nil, erasing_nil, List.append_nil, ← hpending]
    rfl
  | succ n ih =>
    have hjob : (jobs ++ [job])[jobs.length]? = some job := List.getElem?_concat_length
    have happly : apply ⟨db, jobs ++ [job]⟩ (.eraseNext jobs.length) =
        ⟨(advance db job).1, jobs ++ [(advance db job).2]⟩ := by
      have hset : (jobs ++ [job]).set jobs.length (advance db job).2 =
          jobs ++ [(advance db job).2] := by simp
      rw [apply, attempt]
      dsimp only
      rw [hjob, ← hset]
      rfl
    rw [List.replicate_succ, List.foldl_cons, happly]
    cases hpending : job.pending with
    | nil =>
      have hadvance : advance db job = (db, job) := by
        rw [advance, hpending]
      rw [hadvance, ih (by rw [hpending]; exact Nat.zero_le n) hready, hpending]
    | cons s pending =>
      obtain ⟨c, hc, rfl, hdue⟩ := hready.due s (by rw [hpending]; exact List.mem_cons_self)
      have hnext := hready.next hpending hc rfl (job.erased ++ [c.id])
      have hadvance : advance db job = ({ db with
          customers := put Customer.id db.customers (c.erase .retention job.asOf.instant) },
          ⟨job.asOf, job.cutoff, pending, job.erased ++ [c.id]⟩) := by
        rw [advance, hpending]
        dsimp only
        rw [eraseDue_succeeds hready.ids hc hdue]
      have hrest : pending.length ≤ n := by
        rw [hpending, List.length_cons] at hlength
        exact Nat.le_of_succ_le_succ hlength
      have hdistinct := hready.distinct
      rw [hpending, List.map_cons, List.nodup_cons] at hdistinct
      rw [hadvance]
      dsimp only
      rw [ih hrest hnext]
      dsimp only
      rw [put_erase hready.ids hc, erasing_cons hdistinct.1, List.map_cons, List.append_assoc]
      rfl

lemma nodup_selected (h : Inv db) (cutoff : Int) (limit batch : Nat) :
    ((((selectDue db cutoff limit).take batch).map fun c => (c.id, c.storeId, c.rowVersion)).map
      Prod.fst).Nodup := by
  rw [List.map_map]
  refine List.Nodup.sublist ((List.take_sublist _ _).map _) ?_
  refine List.Nodup.sublist ((List.take_sublist _ _).map _) ?_
  exact nodup_map_sortBy.mpr (h.ids.sublist (List.filter_sublist.map _))

lemma Inv.ready (h : Inv db) {asOf : Datetime} {batch : Nat} {job : Job}
    (hjob : selection db asOf batch = .ok job) :
    Ready db job ∧ job.pending.length ≤ batch ∧ job.asOf = asOf ∧ job.erased = [] ∧
      ∃ cutoff, retentionCutoff asOf = .ok cutoff ∧ job.cutoff = cutoff.instant := by
  obtain ⟨_, -, hjob⟩ := bind_ok.mp hjob
  obtain ⟨_, -, hjob⟩ := bind_ok.mp hjob
  obtain ⟨cutoff, hcutoff, hjob⟩ := bind_ok.mp hjob
  cases hjob
  refine ⟨⟨h.ids, nodup_selected h _ _ _, fun s hs => ?_⟩, ?_, rfl, rfl, cutoff,
    mapError_ok.mp hcutoff, rfl⟩
  · obtain ⟨c, hc, rfl⟩ := List.mem_map.mp hs
    have hselected := List.mem_of_mem_take (List.mem_of_mem_take hc)
    rw [mem_sortBy, List.mem_filter, decide_eq_true_eq] at hselected
    exact ⟨c, hselected.1, rfl, hselected.2⟩
  · rw [List.length_map]
    exact List.length_take_le _ _

end DryRun

section Jobs

def Dated (w : World) : Prop :=
  ∀ job ∈ w.jobs, ∃ cutoff, retentionCutoff job.asOf = .ok cutoff ∧ job.cutoff = cutoff.instant

lemma advance_dates (db : Database) (job : Job) :
    (advance db job).2.asOf = job.asOf ∧ (advance db job).2.cutoff = job.cutoff := by
  rw [advance]
  cases job.pending with
  | nil => exact ⟨rfl, rfl⟩
  | cons selected pending =>
    dsimp only
    cases eraseDue db job selected with
    | ok db' => exact ⟨rfl, rfl⟩
    | error e => cases e <;> exact ⟨rfl, rfl⟩

lemma dated_attempt (hinv : Inv w.db) (h : Dated w) {command : Command}
    (hok : attempt w command = .ok w') : Dated w' := by
  cases command with
  | select asOf batch =>
    obtain ⟨job, hjob, hok⟩ := bind_ok.mp hok
    cases hok
    intro job' hjob'
    rcases List.mem_append.mp hjob' with hjob' | hjob'
    · exact h job' hjob'
    · rw [List.mem_singleton.mp hjob']
      obtain ⟨-, -, hasOf, -, hcutoff⟩ := hinv.ready hjob
      rw [hasOf]
      exact hcutoff
  | eraseNext j =>
    obtain ⟨job, hjob, hok⟩ := bind_ok.mp hok
    cases hok
    rw [ofOption_ok] at hjob
    intro job' hjob'
    rcases List.mem_or_eq_of_mem_set hjob' with hjob' | rfl
    · exact h job' hjob'
    · rw [(advance_dates w.db job).1, (advance_dates w.db job).2]
      exact h job (List.mem_of_getElem? hjob)
  | issueTicket =>
    cases hok
    exact h
  | bindChannel =>
    cases hok
    exact h
  | _ =>
    obtain ⟨_, -, hok⟩ := bind_ok.mp hok
    cases hok
    exact h

lemma run_snoc (commands : List Command) (command : Command) :
    run (commands ++ [command]) = apply (run commands) command := by
  rw [run, List.foldl_append]
  rfl

lemma dated_run (commands : List Command) : Dated (run commands) := by
  induction commands using List.reverseRecOn with
  | nil => exact fun _ hjob => absurd hjob List.not_mem_nil
  | append_singleton commands command ih =>
    rw [run_snoc, apply]
    cases hattempt : attempt (run commands) command with
    | error e => exact ih
    | ok w' => exact dated_attempt (inv_run commands) ih hattempt

lemma effects_foldl (w : World) (commands : List Command) :
    Effects w.db (commands.foldl apply w).db := by
  induction commands generalizing w with
  | nil => exact .refl
  | cons command commands ih =>
    refine .trans ?_ (ih (apply w command))
    rw [apply]
    cases hattempt : attempt w command with
    | error e => exact .refl
    | ok w' => exact attempt_effects hattempt

end Jobs

/-- Of the retention job, after every run: a record it erases has had no activity since the
cutoff, and no order or intake keeps it in use exactly when none does that the job does not read;
an erased record has no personal data and stays as it is, with nothing attached to it; and a dry
run names the records that the job erases when it is run at once. -/
theorem retention_spares_active (commands : List Command) :
    let w := run commands
    (∀ j w', attempt w (.eraseNext j) = .ok w' → ∀ c ∈ w.db.customers, c.erasedAt = none →
        ∀ c' ∈ w'.db.customers, c'.id = c.id → c'.erasedAt ≠ none →
        ∃ job cutoff, w.jobs[j]? = some job ∧ c'.erasedAt = some job.asOf.instant ∧
          retentionCutoff job.asOf = .ok cutoff ∧ c.lastActivityAt ≤ cutoff.instant ∧
          (Quiet w.db c cutoff.instant ↔ UnreadQuiet w.db c cutoff.instant)) ∧
      (∀ c ∈ w.db.customers, c.erasedAt ≠ none → c.personal = .erased ∧
        ∀ later, Final w.db (run (commands ++ later)).db c) ∧
      (∀ asOf batch e, dryRun w.db asOf batch = .error e →
        attempt w (.select asOf batch) = .error e) ∧
      ∀ asOf batch ids, dryRun w.db asOf batch = .ok ids →
        let done := run (commands ++ transactions w asOf batch)
        done.db = { w.db with customers := erasing w.db.customers ids asOf.instant } ∧
          done.jobs[w.jobs.length]?.map Job.erased = some ids := by
  intro w
  have hinv : Inv w.db := inv_run commands
  refine ⟨?_, ?_, ?_, ?_⟩
  · intro j w' hok c hc hkept c' hc' hid herased
    obtain ⟨job, hjob, hok⟩ := bind_ok.mp hok
    cases hok
    rw [ofOption_ok] at hjob
    obtain ⟨hdue, hat⟩ := erased_due hinv hc hkept hc' hid herased
    obtain ⟨cutoff, hcutoff, hinstant⟩ := dated_run commands job (List.mem_of_getElem? hjob)
    rw [hinstant] at hdue
    exact ⟨job, cutoff, hjob, hat, hcutoff, hdue.2.1, hinv.quiet_iff hc hdue⟩
  · intro c hc herased
    refine ⟨hinv.erased c hc herased, fun later => ?_⟩
    have hrun : run (commands ++ later) = later.foldl apply w := List.foldl_append
    rw [hrun]
    exact final_effects hinv hc herased (effects_foldl w later)
  · intro asOf batch e he
    rcases bind_error.mp he with he | ⟨_, _, he⟩
    · exact bind_error.mpr (.inl he)
    · cases he
  · intro asOf batch ids hids
    obtain ⟨job, hjob, hids⟩ := bind_ok.mp hids
    cases hids
    obtain ⟨hready, hlength, rfl, hnone, -⟩ := hinv.ready hjob
    have hselect : apply w (.select job.asOf batch) = ⟨w.db, w.jobs ++ [job]⟩ := by
      rw [apply, attempt, hjob]
      rfl
    have hrun : run (commands ++ transactions w job.asOf batch) =
        ⟨{ w.db with
          customers := erasing w.db.customers (job.pending.map Prod.fst) job.asOf.instant },
          w.jobs ++ [⟨job.asOf, job.cutoff, [], job.pending.map Prod.fst⟩]⟩ := by
      rw [run, List.foldl_append, transactions, List.foldl_cons]
      change (List.replicate batch _).foldl apply (apply w _) = _
      rw [hselect, foldl_eraseNext batch hlength hready, hnone]
      rfl
    rw [hrun]
    refine ⟨rfl, ?_⟩
    dsimp only
    rw [List.getElem?_concat_length]
    rfl

section Counter

lemma midnight_lt (day : Fin 3000) : (730119 + day) * dayMicros < wallLimit := by
  have hday : 730119 + (day : Nat) < Gregorian.maxDay := by
    have hmax : Gregorian.maxDay = 3652059 := rfl
    omega
  exact Nat.mul_lt_mul_of_pos_right hday (by decide)

def midnight (day : Fin 3000) : Datetime := .ofUtc ((730119 + day) * dayMicros) (midnight_lt day)

/-- A customer is recorded, and linked to a ticket; three years later an intake is opened under
the ticket, and the retention job is run. -/
def intakeUnderTicket : List Command :=
  [.create ⟨1⟩ ⟨9⟩ true true ⟨"0905123456", "digest", "3456"⟩ none none none .retail false
      (midnight 0).instant,
    .issueTicket ⟨2⟩ ⟨9⟩, .link ⟨9⟩ ⟨1⟩ .counterTicket ⟨2⟩,
    .createRequest ⟨⟨3⟩, ⟨9⟩, ⟨2⟩, none, (midnight 1096).instant⟩, .select (midnight 1097) 1]

/-- The record is erased on the day after the intake. -/
theorem erased_after_intake :
    let w := run intakeUnderTicket
    ∃ c ∈ w.db.customers, c.erasedAt = none ∧
      (∃ c' ∈ (apply w (.eraseNext 0)).db.customers, c'.id = c.id ∧
        c'.erasedAt = some (midnight 1097).instant) ∧
      ∃ r ∈ w.db.requests, (∃ l ∈ w.db.links, l.customerId = c.id ∧ l.refId = r.contactBindingId) ∧
        ∃ job ∈ w.jobs, job.cutoff < r.createdAt := by
  decide +kernel

end Counter

end NhaTrangLaundry.Db.Customers
