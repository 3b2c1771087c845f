import Mathlib.Data.List.Induction
import NhaTrangLaundry.Db.ApprovalsOnce
import NhaTrangLaundry.Db.Exports
import NhaTrangLaundry.Lib.HashWords

/-! A file leaves as the owner signed it, and once. -/

namespace NhaTrangLaundry.Db.Exports

open Lib Outcome Sorting Table Domain Canonical
open Approvals (Approval ApprovalDecision ApprovalRequest)

section Signature

variable [Unicodedata]

def Collision (s t : String) : Prop := s ≠ t ∧ Hashing.sha256 s = Hashing.sha256 t

omit [Unicodedata] in
lemma proper_facts (facts : ExportFacts) : Value.Proper false facts.value := by
  rw [ExportFacts.value]
  cases facts.businessDateTo with
  | none =>
    refine .named ["dataset", "store_id", "business_date"] rfl (by decide) (by decide)
      fun f hf => ?_
    simp only [List.append_nil, List.mem_cons, List.not_mem_nil, or_false] at hf
    rcases hf with rfl | rfl | rfl
    · exact .str
    · exact .uuid
    · exact .str
  | some last =>
    refine .named ["dataset", "store_id", "business_date", "business_date_to"] rfl
      (by decide) (by decide) fun f hf => ?_
    simp only [List.cons_append, List.nil_append, List.mem_cons, List.not_mem_nil, or_false] at hf
    rcases hf with rfl | rfl | rfl | rfl
    · exact .str
    · exact .uuid
    · exact .str
    · exact .str

omit [Unicodedata] in
lemma proper_texts (items : List String) : Value.Proper false (texts items) := by
  refine .seq fun x hx => ?_
  obtain ⟨s, -, rfl⟩ := List.mem_map.mp hx
  exact .str

omit [Unicodedata] in
lemma proper_source (source : ExportMoneySource) : Value.Proper false source.value := by
  refine .named ["column", "ledger", "cut_on"] rfl (by decide) (by decide)
    fun f hf => ?_
  simp only [List.mem_cons, List.not_mem_nil, or_false] at hf
  rcases hf with rfl | rfl | rfl
  · exact .str
  · exact .str
  · exact .str

omit [Unicodedata] in
lemma proper_statement (shape : ExportShape) (facts : ExportFacts) :
    Value.Proper false (statement shape facts) := by
  refine .named ["facts", "business_timezone", "day_boundary", "columns", "excludes",
    "query_version", "statement_vi", "money_sources", "money_line_vi"] rfl (by decide) (by decide)
    fun f hf => ?_
  simp only [statementFields, List.cons_append, List.nil_append, List.mem_cons, List.not_mem_nil,
    or_false] at hf
  rcases hf with rfl | rfl | rfl | rfl | rfl | rfl | rfl | rfl | rfl
  · exact proper_facts facts
  · exact .str
  · exact .str
  · exact proper_texts _
  · exact proper_texts _
  · exact .str
  · exact .str
  · refine .seq fun x hx => ?_
    obtain ⟨source, -, rfl⟩ := List.mem_map.mp hx
    exact proper_source source
  · exact .str

lemma nfc_isoformat (d : Date) : nfc d.isoformat = d.isoformat :=
  Unicodedata.nfc_ascii _ (Date.ascii_isoformat d)

lemma jsonValue_facts (facts : ExportFacts) :
    jsonValue true facts.value = .ok (.obj ([("dataset", .str (nfc facts.dataset.value)),
      ("store_id", .str facts.storeId.str),
      ("business_date", .str facts.businessDate.isoformat)] ++
      match facts.businessDateTo with
      | none => []
      | some last => [("business_date_to", .str last.isoformat)])) := by
  rw [ExportFacts.value]
  cases facts.businessDateTo with
  | none =>
    simp [jsonValue, valueFields, dataclassMembers, volatileHashFields, nfc_isoformat]
  | some last =>
    simp [jsonValue, valueFields, dataclassMembers, volatileHashFields, nfc_isoformat]

lemma sorted_facts {facts : ExportFacts} {j : Json} (h : jsonValue true facts.value = .ok j) :
    (Json.sorted j).get? "store_id" = some (.str facts.storeId.str) ∧
      (Json.sorted j).get? "business_date" = some (.str facts.businessDate.isoformat) ∧
      (Json.sorted j).get? "business_date_to" =
        facts.businessDateTo.map fun last => .str last.isoformat := by
  have hdistinct := (settled_obj.mp (jsonValue_settled (fun _ => rfl) (proper_facts facts)
    (jsonValue_facts facts))).1
  rw [jsonValue_facts, Except.ok.injEq] at h
  subst h
  refine ⟨?_, ?_, ?_⟩
  · rw [Json.sorted_obj_get? _ hdistinct]
    rfl
  · rw [Json.sorted_obj_get? _ hdistinct]
    rfl
  · rw [Json.sorted_obj_get? _ hdistinct]
    cases facts.businessDateTo with
    | none => rfl
    | some last => rfl

lemma facts_of_canonicalJson {shape shape' : ExportShape} {facts facts' : ExportFacts}
    {d d' : CanonicalDocument} (hd : document (statement shape facts) = .ok d)
    (hd' : document (statement shape' facts') = .ok d') (h : d.canonicalJson = d'.canonicalJson) :
    facts = facts' := by
  obtain ⟨j, j', hj, hj', hsorted⟩ := sorted_eq_of_canonicalJson (proper_statement shape facts)
    (proper_statement shape' facts') (mapError_ok.mp hd) (mapError_ok.mp hd') h
  obtain ⟨x, hx, hget⟩ := get?_dataclass (proper_statement shape facts) hj (k := "facts")
    (by decide) rfl
  obtain ⟨x', hx', hget'⟩ := get?_dataclass (proper_statement shape' facts') hj' (k := "facts")
    (by decide) rfl
  have hfacts : Json.sorted x = Json.sorted x' := by
    rw [hsorted, hget', Option.some.injEq] at hget
    exact hget.symm
  obtain ⟨hstore, hfirst, hlast⟩ := sorted_facts hx
  obtain ⟨hstore', hfirst', hlast'⟩ := sorted_facts hx'
  rw [hfacts, hstore', Option.some.injEq, Json.str.injEq] at hstore
  rw [hfacts, hfirst', Option.some.injEq, Json.str.injEq] at hfirst
  rw [hfacts, hlast'] at hlast
  obtain ⟨⟨⟩, store, first, last⟩ := facts
  obtain ⟨⟨⟩, store', first', last'⟩ := facts'
  obtain rfl : store' = store := Uuid.str_injective hstore
  obtain rfl : first' = first := Date.isoformat_injective hfirst
  have htexts : Function.Injective fun last : Date => Json.str last.isoformat := by
    intro a b hab
    exact Date.isoformat_injective (Json.str.inj hab)
  obtain rfl : last' = last := Option.map_injective htexts hlast
  rfl

lemma digest_separates {shape shape' : ExportShape} {facts facts' : ExportFacts}
    {d d' : CanonicalDocument} (hd : document (statement shape facts) = .ok d)
    (hd' : document (statement shape' facts') = .ok d') (hne : facts ≠ facts')
    (hfree : ¬ Collision d.canonicalJson d'.canonicalJson) : d.snapshotHash ≠ d'.snapshotHash := by
  intro hsame
  have htexts : d.canonicalJson ≠ d'.canonicalJson := fun h => hne (facts_of_canonicalJson hd hd' h)
  obtain ⟨_, s, -, -, rfl⟩ := canonicalDocument_ok.mp (mapError_ok.mp hd)
  obtain ⟨_, s', -, -, rfl⟩ := canonicalDocument_ok.mp (mapError_ok.mp hd')
  refine hfree ⟨htexts, ?_⟩
  rw [documentOf, documentOf] at hsame
  exact String.append_right_inj _ |>.mp hsame

end Signature

/-- Envelopes stay what they were raised as, and a decided one is not decided again. -/
structure Carries (db db' : Approvals.Database) : Prop where
  onward : Approvals.Onward db db'
  decisions : db'.decisions = db.decisions ∨ ∃ d : ApprovalDecision,
    db'.decisions = db.decisions ++ [d] ∧
      d.approvalRequestId ∉ db.decisions.map ApprovalDecision.approvalRequestId

lemma carries_refl (db : Approvals.Database) : Carries db db :=
  ⟨Approvals.onward_of_approvals rfl, .inl rfl⟩

lemma carries_effect {db db' : Approvals.Database} {e : Option Approvals.Event}
    (h : Approvals.Inv db) (he : Approvals.Effect db e db') : Carries db db' := by
  refine ⟨h.onward he, ?_⟩
  cases he with
  | raised => exact .inl rfl
  | elsewhere => exact .inl rfl
  | expired => exact .inl rfl
  | decided a d use found pending early names decides held free =>
    exact .inr ⟨d, rfl, names ▸ free⟩
  | claimed => exact .inl rfl
  | prepared => exact .inl rfl
  | sent => exact .inl rfl

lemma carries_apply {db : Approvals.Database} (h : Approvals.Inv db) (c : Approvals.Command) :
    Carries db (Approvals.apply db c) := by
  rw [Approvals.apply]
  cases hattempt : Approvals.attempt db c with
  | error refusal => exact carries_refl db
  | ok result => exact carries_effect h (Approvals.attempt_effect hattempt)

lemma compareDigest_ok {stored observed : String} {same : Bool}
    (h : compareDigest stored observed = .ok same) : same = decide (stored = observed) := by
  obtain ⟨_, _, h⟩ := bind_ok.mp h
  cases h
  rfl

lemma requireSameContent_ok {a : Approval} {snapshot rendered retired : String} {u : Unit}
    (h : requireSameContent a snapshot rendered retired = .ok u) :
    a.snapshotHash = snapshot ∧ a.renderedHash = rendered := by
  obtain ⟨snapshotSame, hsnapshot, h⟩ := bind_ok.mp h
  obtain ⟨_, hsame, h⟩ := bind_ok.mp h
  obtain ⟨renderedSame, hrendered, h⟩ := bind_ok.mp h
  have hsame := require_ok.mp hsame
  rw [compareDigest_ok hsnapshot] at hsame
  cases hbool : renderedSame with
  | true =>
    rw [compareDigest_ok hrendered] at hbool
    exact ⟨of_decide_eq_true hsame, of_decide_eq_true hbool⟩
  | false =>
    rw [hbool, if_neg Bool.false_ne_true] at h
    obtain ⟨_, _, h⟩ := bind_ok.mp h
    obtain ⟨_, _, h⟩ := bind_ok.mp h
    cases h

lemma requireExportApproval_ok {binding : Option Approval} {request : ExportRequest}
    {snapshot rendered retired : String} {at_ : Datetime} {u : Unit}
    (h : requireExportApproval binding request snapshot rendered retired at_ = .ok u) :
    ∃ a, binding = some a ∧ (a.storeId = request.storeId ∧ a.action = .exportSanitizedData ∧
      a.resourceType = "EXPORT_REQUEST") ∧ (a.resourceId = request.id ∧ a.resourceVersion = 1) ∧
      (a.snapshotHash = snapshot ∧ a.renderedHash = rendered) ∧ a.status = .approved ∧
      at_.instant < a.expiresAt := by
  obtain ⟨a, ha, h⟩ := bind_ok.mp h
  obtain ⟨_, hbound, h⟩ := bind_ok.mp h
  obtain ⟨_, hnames, h⟩ := bind_ok.mp h
  obtain ⟨_, hcontent, h⟩ := bind_ok.mp h
  obtain ⟨_, happroved, h⟩ := bind_ok.mp h
  obtain ⟨_, _, h⟩ := bind_ok.mp h
  exact ⟨a, ofOption_ok.mp ha, require_ok.mp hbound, require_ok.mp hnames,
    requireSameContent_ok hcontent, require_ok.mp happroved, require_ok.mp h⟩

lemma requireSeparateApprover_ok {db : Database} {approvalId definedBy : Uuid} {u : Unit}
    (h : requireSeparateApprover db approvalId definedBy = .ok u) :
    ∃ d ∈ db.approvals.decisions, d.approvalRequestId = approvalId ∧ d.decision = .approved ∧
      d.decidedBy ≠ definedBy := by
  obtain ⟨d, hd, h⟩ := bind_ok.mp h
  have hmem := List.mem_of_getLast? (ofOption_ok.mp hd)
  rw [mem_sortBy, List.mem_filter] at hmem
  obtain ⟨happroval, hdecision⟩ := of_decide_eq_true hmem.2
  exact ⟨d, hmem.1, happroval, hdecision, require_ok.mp h⟩

section Run

variable [Unicodedata]

/-- The envelope binds this request, its store and its statement, and is good beyond the moment. -/
def Binds (request : ExportRequest) (shape : ExportShape) (at_ : Int) (a : ApprovalRequest) :
    Prop :=
  (a.storeId = request.storeId ∧ a.action = .exportSanitizedData ∧
    a.resourceType = "EXPORT_REQUEST") ∧ (a.resourceId = request.id ∧ a.resourceVersion = 1) ∧
  at_ < a.expiresAt ∧ ∃ facts rendered, document request.toExportFacts.value = .ok facts ∧
    document (statement shape request.toExportFacts) = .ok rendered ∧
    a.snapshotHash = facts.snapshotHash ∧ a.renderedHash = rendered.snapshotHash

/-- There is such an envelope, approved by another than the one who defined the request. -/
def Authorised (db : Approvals.Database) (request : ExportRequest) (shape : ExportShape)
    (approvalId : Uuid) (at_ : Int) : Prop :=
  (∃ a ∈ db.approvals, a.id = approvalId ∧ Binds request shape at_ a.toApprovalRequest) ∧
  (∃ d ∈ db.decisions, d.approvalRequestId = approvalId) ∧
  ∀ d ∈ db.decisions, d.approvalRequestId = approvalId →
    d.decision = .approved ∧ d.decidedBy ≠ request.requestedByStaffId

lemma Authorised.carry {db db' : Approvals.Database} {request : ExportRequest} {shape : ExportShape}
    {approvalId : Uuid} {at_ : Int} (h : Authorised db request shape approvalId at_)
    (hc : Carries db db') : Authorised db' request shape approvalId at_ := by
  obtain ⟨henvelope, ⟨d, hd, hid⟩, hall⟩ := h
  refine ⟨hc.onward.carries henvelope, ?_, ?_⟩
  · rcases hc.decisions with hsame | ⟨d', hnew, -⟩
    · exact ⟨d, hsame ▸ hd, hid⟩
    · exact ⟨d, hnew ▸ List.mem_append_left _ hd, hid⟩
  · intro x hx hxid
    rcases hc.decisions with hsame | ⟨d', hnew, hfresh⟩
    · exact hall x (hsame ▸ hx) hxid
    · rw [hnew, List.mem_append, List.mem_singleton] at hx
      rcases hx with hx | rfl
      · exact hall x hx hxid
      · exact absurd (List.mem_map.mpr ⟨d, hd, hid.trans hxid.symm⟩) hfresh

lemma startExecute_ok {shape : ExportShape} {db : Database} {command : ExportExecutionCommand}
    {now : Datetime} {call : Call} (happrovals : Approvals.Inv db.approvals)
    (h : startExecute shape db command now = .ok call) :
    call.request ∈ db.requests ∧ call.request.id = call.command.exportRequestId ∧
      Authorised db.approvals call.request call.shape call.command.approvalRequestId
        call.executedAt.instant ∧
      ∃ a ∈ db.approvals.approvals, a.id = call.command.approvalRequestId ∧
        a.status = .approved := by
  obtain ⟨_, _, h⟩ := bind_ok.mp h
  obtain ⟨request, hrequest, h⟩ := bind_ok.mp h
  obtain ⟨_, _, h⟩ := bind_ok.mp h
  obtain ⟨_, _, h⟩ := bind_ok.mp h
  obtain ⟨snapshot, hsnapshot, h⟩ := bind_ok.mp h
  obtain ⟨rendered, hrendered, h⟩ := bind_ok.mp h
  obtain ⟨retired, _, h⟩ := bind_ok.mp h
  obtain ⟨_, happroval, h⟩ := bind_ok.mp h
  obtain ⟨_, hseparate, h⟩ := bind_ok.mp h
  cases h
  have hrequest := ofOption_ok.mp hrequest
  obtain ⟨a, ha, hbound, hnames, hcontent, hstatus, hexpires⟩ := requireExportApproval_ok happroval
  obtain ⟨d, hd, hdid, hdecision, hother⟩ := requireSeparateApprover_ok hseparate
  have haid : a.key = command.approvalRequestId := lookup_key ha
  have hbinds : Binds request shape (command.executedAt.getD now).instant a.toApprovalRequest :=
    ⟨hbound, hnames, hexpires, snapshot, rendered, hsnapshot, hrendered, hcontent⟩
  refine ⟨lookup_mem hrequest, lookup_key hrequest, ⟨⟨a, lookup_mem ha, haid, hbinds⟩,
    ⟨d, hd, hdid⟩, ?_⟩, a, lookup_mem ha, haid, hstatus⟩
  intro x hx hxid
  have hsame : x = d := List.inj_on_of_nodup_map happrovals.decidedOnce hx hd (hxid.trans hdid.symm)
  rw [hsame]
  exact ⟨hdecision, hother⟩

def Signed (db : Database) (x : DataExport) : Prop :=
  ∃ request ∈ db.requests, request.id = x.exportRequestId ∧ request.storeId = x.storeId ∧
    ∃ shape : ExportShape, shape.queryVersion request.toExportFacts = x.queryVersion ∧
      Authorised db.approvals request shape x.approvalRequestId x.producedAt

def CallAuthorised (db : Database) (call : Call) : Prop :=
  call.request ∈ db.requests ∧ Authorised db.approvals call.request call.shape
    call.command.approvalRequestId call.executedAt.instant

structure Inv (w : World) : Prop where
  approvals : Approvals.Inv w.db.approvals
  requestIds : (w.db.requests.map ExportRequest.key).Nodup
  orderIds : (w.db.orders.map fun order => order.fetched.id).Nodup
  once : (w.db.exports.map DataExport.exportRequestId).Nodup
  calls : ∀ call ∈ w.calls, CallAuthorised w.db call
  exports : ∀ x ∈ w.db.exports, Signed w.db x

structure Keeps (db db' : Database) : Prop where
  requests : ∀ request ∈ db.requests, request ∈ db'.requests
  approvals : Carries db.approvals db'.approvals

lemma CallAuthorised.keep {db db' : Database} {call : Call} (h : CallAuthorised db call)
    (hk : Keeps db db') : CallAuthorised db' call :=
  ⟨hk.requests _ h.1, h.2.carry hk.approvals⟩

lemma Signed.keep {db db' : Database} {x : DataExport} (h : Signed db x) (hk : Keeps db db') :
    Signed db' x := by
  obtain ⟨request, hrequest, hid, hstore, shape, hlabel, hauthorised⟩ := h
  exact ⟨request, hk.requests _ hrequest, hid, hstore, shape, hlabel,
    hauthorised.carry hk.approvals⟩

lemma inv_approvalTables {shape : ExportShape} {db : Database} (h : Approvals.Inv db.approvals) :
    Approvals.Inv (approvalTables shape db) :=
  ⟨h.ids, h.decidedOnce, h.claimedOnce, h.preparedOnce, h.sendIds, h.executing, h.exclusive,
    h.approver, h.bound⟩

lemma request_ok {shape : ExportShape} {db db' : Database} {command : ExportRequestCommand}
    {now : Datetime} {id : Uuid} (h : request shape db command now id = .ok db') :
    ∃ row : ExportRequest, row.key ∉ db.requests.map ExportRequest.key ∧
      db' = { db with requests := db.requests ++ [row] } := by
  obtain ⟨_, _, h⟩ := bind_ok.mp h
  obtain ⟨⟨first, last⟩, _, h⟩ := bind_ok.mp h
  obtain ⟨snapshot, _, h⟩ := bind_ok.mp h
  obtain ⟨rendered, _, h⟩ := bind_ok.mp h
  obtain ⟨_, _, h⟩ := bind_ok.mp h
  obtain ⟨_, hfresh, h⟩ := bind_ok.mp h
  cases h
  refine ⟨_, ?_, rfl⟩
  exact require_ok.mp hfresh

lemma attempt_ok {w : World} (h : Inv w) {c : Command} {db : Database}
    (hc : attempt w.db c = .ok db) :
    Keeps w.db db ∧ db.exports = w.db.exports ∧ Approvals.Inv db.approvals ∧
      (db.requests.map ExportRequest.key).Nodup ∧
      (db.orders.map fun order => order.fetched.id).Nodup := by
  cases c with
  | request shape command now id =>
    obtain ⟨row, hfresh, rfl⟩ := request_ok hc
    refine ⟨⟨fun r hr => List.mem_append_left _ hr, carries_refl _⟩, rfl, h.approvals, ?_,
      h.orderIds⟩
    exact nodup_map_snoc h.requestIds (lookup_none.mpr hfresh)
  | approval shape command =>
    cases hc
    have htables := (inv_approvalTables h.approvals : Approvals.Inv (approvalTables shape w.db))
    have hcarries := carries_apply htables command
    exact ⟨⟨fun r hr => hr, hcarries.onward, hcarries.decisions⟩, rfl,
      Approvals.Inv.apply htables command, h.requestIds, h.orderIds⟩
  | startExecute shape command now =>
    cases hc
    exact ⟨⟨fun r hr => hr, carries_refl _⟩, rfl, h.approvals, h.requestIds, h.orderIds⟩
  | finishExecute i exportId =>
    cases hc
    exact ⟨⟨fun r hr => hr, carries_refl _⟩, rfl, h.approvals, h.requestIds, h.orderIds⟩
  | abandonExecute i =>
    cases hc
    exact ⟨⟨fun r hr => hr, carries_refl _⟩, rfl, h.approvals, h.requestIds, h.orderIds⟩
  | elsewhere orders storagePolicy =>
    obtain ⟨_, hids, hc⟩ := bind_ok.mp hc
    cases hc
    exact ⟨⟨fun r hr => hr, carries_refl _⟩, rfl, h.approvals, h.requestIds, require_ok.mp hids⟩

omit [Unicodedata] in
lemma finishExecute_ok {db db' : Database} {call : Call} {exportId : Uuid} {x : DataExport}
    {rows : List ExportRow} (h : finishExecute db call exportId = .ok ((x, rows), db')) :
    moneyRows db.storagePolicy call.executedAt.instant (fetch db call.request.toExportFacts) =
        .ok rows ∧
      call.request.id ∉ db.exports.map DataExport.exportRequestId ∧
      x = ⟨exportId, call.request.id, call.request.storeId, call.command.approvalRequestId,
        call.shape.queryVersion call.request.toExportFacts, rows.length,
        call.command.principal.staffUserId, call.executedAt.instant⟩ ∧
      db' = { db with exports := db.exports ++ [x] } := by
  obtain ⟨rows', hrows, h⟩ := bind_ok.mp h
  obtain ⟨_, _, h⟩ := bind_ok.mp h
  obtain ⟨_, hfresh, h⟩ := bind_ok.mp h
  cases h
  exact ⟨hrows, (require_ok.mp hfresh).2, rfl, rfl⟩

omit [Unicodedata] in
lemma released_ok {w : World} {c : Command} {call : Call} {x : DataExport} {rows : List ExportRow}
    {db : Database} (h : released w c = .ok (call, (x, rows), db)) :
    call ∈ w.calls ∧ ∃ exportId, finishExecute w.db call exportId = .ok ((x, rows), db) := by
  cases c with
  | finishExecute i exportId =>
    obtain ⟨found, hfound, h⟩ := bind_ok.mp h
    obtain ⟨file, hfile, h⟩ := bind_ok.mp h
    cases h
    exact ⟨List.mem_of_getElem? (ofOption_ok.mp hfound), exportId, hfile⟩
  | request => cases h
  | approval => cases h
  | startExecute => cases h
  | abandonExecute => cases h
  | elsewhere => cases h

lemma started_ok {w : World} {c : Command} {call : Call} (h : started w c = .ok call) :
    ∃ shape command now, startExecute shape w.db command now = .ok call := by
  cases c with
  | startExecute shape command now =>
    obtain ⟨found, hfound, h⟩ := bind_ok.mp h
    obtain ⟨_, _, h⟩ := bind_ok.mp h
    cases h
    exact ⟨shape, command, now, hfound⟩
  | request => cases h
  | approval => cases h
  | finishExecute => cases h
  | abandonExecute => cases h
  | elsewhere => cases h

lemma mem_callsAfter {w : World} {c : Command} {call : Call} (h : call ∈ callsAfter w c) :
    call ∈ w.calls ∨ started w c = .ok call := by
  have hstarted : ∀ r : Except Refusal Call, call ∈ r.toOption.toList → r = .ok call := by
    intro r hr
    cases r with
    | error e => cases hr
    | ok found =>
      have hfound : call = found := List.mem_singleton.mp hr
      rw [hfound]
  cases c with
  | finishExecute i exportId => exact .inl (List.mem_of_mem_eraseIdx h)
  | abandonExecute i => exact .inl (List.mem_of_mem_eraseIdx h)
  | request => exact (List.mem_append.mp h).imp id (hstarted _)
  | approval => exact (List.mem_append.mp h).imp id (hstarted _)
  | startExecute => exact (List.mem_append.mp h).imp id (hstarted _)
  | elsewhere => exact (List.mem_append.mp h).imp id (hstarted _)

lemma Inv.calls_after {w : World} (h : Inv w) (c : Command) {db : Database} (hk : Keeps w.db db) :
    ∀ call ∈ callsAfter w c, CallAuthorised db call := by
  intro call hcall
  rcases mem_callsAfter hcall with hcall | hcall
  · exact (h.calls call hcall).keep hk
  · obtain ⟨shape, command, now, hstart⟩ := started_ok hcall
    obtain ⟨hrequest, -, hauthorised, -⟩ := startExecute_ok h.approvals hstart
    exact CallAuthorised.keep ⟨hrequest, hauthorised⟩ hk

lemma Inv.release {w : World} (h : Inv w) {call : Call} (hcall : call ∈ w.calls) {exportId : Uuid}
    {x : DataExport} {rows : List ExportRow} {db : Database}
    (hfile : finishExecute w.db call exportId = .ok ((x, rows), db)) :
    Keeps w.db db ∧ (db.exports.map DataExport.exportRequestId).Nodup ∧
      ∀ y ∈ db.exports, Signed db y := by
  obtain ⟨-, hfresh, hx, rfl⟩ := finishExecute_ok hfile
  have hkeeps : Keeps w.db { w.db with exports := w.db.exports ++ [x] } :=
    ⟨fun r hr => hr, carries_refl _⟩
  refine ⟨hkeeps, ?_, fun y hy => ?_⟩
  · rw [hx]
    exact nodup_map_snoc h.once (lookup_none.mpr hfresh)
  · rcases List.mem_append.mp hy with hy | hy
    · exact (h.exports y hy).keep hkeeps
    · rw [List.mem_singleton.mp hy, hx]
      obtain ⟨hrequest, hauthorised⟩ := h.calls call hcall
      exact ⟨call.request, hrequest, rfl, rfl, call.shape, rfl, hauthorised⟩

lemma Inv.apply {w : World} (h : Inv w) (c : Command) : Inv (apply w c) := by
  cases hreleased : released w c with
  | ok result =>
    obtain ⟨call, ⟨x, rows⟩, db⟩ := result
    obtain ⟨hcall, exportId, hfile⟩ := released_ok hreleased
    obtain ⟨hkeeps, honce, hsigned⟩ := h.release hcall hfile
    obtain ⟨-, -, -, rfl⟩ := finishExecute_ok hfile
    have hcalls := h.calls_after c hkeeps
    simp only [Exports.apply, hreleased]
    exact ⟨h.approvals, h.requestIds, h.orderIds, honce, hcalls, hsigned⟩
  | error refusal =>
    cases hattempt : attempt w.db c with
    | error refusal' =>
      have hcalls := h.calls_after c (⟨fun r hr => hr, carries_refl _⟩ : Keeps w.db w.db)
      simp only [Exports.apply, hreleased, hattempt]
      exact ⟨h.approvals, h.requestIds, h.orderIds, h.once, hcalls, h.exports⟩
    | ok db =>
      obtain ⟨hkeeps, hexports, happrovals, hrequests, horders⟩ := attempt_ok h hattempt
      have hcalls := h.calls_after c hkeeps
      simp only [Exports.apply, hreleased, hattempt]
      exact ⟨happrovals, hrequests, horders, hexports ▸ h.once, hcalls,
        fun x hx => (h.exports x (hexports ▸ hx)).keep hkeeps⟩

lemma inv_run (commands : List Command) : Inv (run commands) := by
  refine List.foldlRecOn commands Exports.apply ?_ fun w h c _ => h.apply c
  exact ⟨Approvals.inv_empty, List.nodup_nil, List.nodup_nil, List.nodup_nil,
    fun _ h => absurd h List.not_mem_nil, fun _ h => absurd h List.not_mem_nil⟩

lemma run_snoc (commands : List Command) (c : Command) :
    run (commands ++ [c]) = apply (run commands) c := List.foldl_append ..

lemma started_of_mem (commands : List Command) :
    ∀ call ∈ (run commands).calls, ∃ before c after, commands = before ++ c :: after ∧
      started (run before) c = .ok call := by
  induction commands using List.reverseRecOn with
  | nil => exact fun _ h => absurd h List.not_mem_nil
  | append_singleton commands c ih =>
    intro call hcall
    rw [run_snoc] at hcall
    rcases mem_callsAfter hcall with hcall | hcall
    · obtain ⟨before, c', after, rfl, hstarted⟩ := ih call hcall
      exact ⟨before, c', after ++ [c], by rw [List.append_assoc, List.cons_append], hstarted⟩
    · exact ⟨commands, c, [], rfl, hcall⟩

def InWindow (facts : ExportFacts) (order : OrderRecord) : Prop :=
  facts.businessDate.ordinal ≤ order.localDate ∧
    order.localDate ≤ (facts.businessDateTo.getD facts.businessDate).ordinal

omit [Unicodedata] in
lemma fetch_mem {db : Database} {facts : ExportFacts} {row : FetchedOrder}
    (h : row ∈ fetch db facts) :
    ∃ order ∈ db.orders, order.storeId = facts.storeId ∧ InWindow facts order ∧
      order.fetched = row := by
  rw [fetch] at h
  cases hlast : facts.businessDateTo with
  | none =>
    rw [hlast] at h
    obtain ⟨order, horder, rfl⟩ := List.mem_map.mp h
    rw [mem_sortBy, List.mem_filter] at horder
    obtain ⟨hstore, hday⟩ := of_decide_eq_true horder.2
    refine ⟨order, horder.1, hstore, ?_, rfl⟩
    rw [InWindow, hlast]
    exact ⟨hday.ge, hday.le⟩
  | some last =>
    rw [hlast] at h
    obtain ⟨order, horder, rfl⟩ := List.mem_map.mp h
    rw [mem_sortBy, List.mem_filter] at horder
    obtain ⟨hstore, hday⟩ := of_decide_eq_true horder.2
    refine ⟨order, horder.1, hstore, ?_, rfl⟩
    rw [InWindow, hlast]
    exact hday

omit [Unicodedata] in
lemma nodup_orderKey {orders : List OrderRecord}
    (h : (orders.map fun order => order.fetched.id).Nodup) : (orders.map orderKey).Nodup := by
  rw [List.nodup_map_iff_inj_on (List.Nodup.of_map _ h)]
  intro a ha b hb hab
  refine List.inj_on_of_nodup_map h ha hb ?_
  have hid : a.fetched.id.int.val = b.fetched.id.int.val :=
    (Prod.mk.injEq .. ▸ toLex_inj.mp hab).2
  exact congrArg Uuid.mk (Fin.val_injective hid)

omit [Unicodedata] in
lemma exportWindowSql_days {db : Database} (h : (db.orders.map fun order => order.fetched.id).Nodup)
    (store : Uuid) (first last : Date) :
    exportWindowSql db store first last =
      (Date.through first last).flatMap (exportSql db store) := by
  have hkeys := nodup_orderKey h
  set ofStore := (sortBy orderKey db.orders).filter fun order => order.storeId = store
  have hday : ∀ d : Nat, (sortBy orderKey (db.orders.filter fun order =>
      order.storeId = store ∧ order.localDate = d)) = ofStore.filter fun order : OrderRecord =>
        order.localDate = (d : Int) := by
    intro d
    rw [← filter_sortBy _ hkeys, List.filter_filter]
    refine List.filter_congr fun order _ => ?_
    rw [Bool.decide_and, Bool.and_comm]
  have hsorted : ofStore.Pairwise fun a b => a.localDate ≤ b.localDate := by
    refine ((sortBy_sorted orderKey db.orders).filter _).imp fun {a b} hab => ?_
    have hcreated : a.fetched.createdAt ≤ b.fetched.createdAt := by
      rcases Prod.Lex.toLex_le_toLex.mp hab with hlt | heq
      · exact hlt.le
      · exact heq.1.le
    exact Int.ediv_le_ediv (by decide) (add_le_add_left hcreated _)
  have hwindow : (sortBy orderKey (db.orders.filter fun order => order.storeId = store ∧
      first.ordinal ≤ order.localDate ∧ order.localDate ≤ last.ordinal)) =
        ofStore.filter fun order : OrderRecord => (first.ordinal : Int) ≤ order.localDate ∧
          order.localDate < first.ordinal + (last.ordinal + 1 - first.ordinal : Nat) := by
    rw [← filter_sortBy _ hkeys, List.filter_filter]
    refine List.filter_congr fun order _ => ?_
    rw [Bool.decide_and, Bool.and_comm]
    refine congrArg (· && _) (decide_eq_decide.mpr ?_)
    omega
  have hdays := Date.flatMap_through first last fun d =>
    (ofStore.filter fun order : OrderRecord => order.localDate = (d : Int)).map OrderRecord.fetched
  have hsql : exportSql db store = fun d : Date => (ofStore.filter fun order : OrderRecord =>
      order.localDate = (d.ordinal : Int)).map OrderRecord.fetched := by
    funext d
    rw [exportSql, hday]
  rw [hsql, hdays]
  refine (congrArg (List.map OrderRecord.fetched) (hwindow.trans (filter_days hsorted _ _))).trans ?_
  rw [List.map_flatMap]
  refine List.flatMap_congr fun i _ => ?_
  push_cast
  rfl

/-- What `execute` has seen when a call of it is in flight. -/
def Approved (db : Database) (call : Call) : Prop :=
  CallAuthorised db call ∧ ∃ a ∈ db.approvals.approvals,
    a.id = call.command.approvalRequestId ∧ a.status = .approved

/-- A file is written for a call in flight, with the rows of its store and window. -/
structure Releases (w w' : World) (call : Call) (x : DataExport) (rows : List ExportRow) :
    Prop where
  inFlight : call ∈ w.calls
  written : w'.db.exports = w.db.exports ++ [x]
  ofCall : x.exportRequestId = call.request.id ∧ x.storeId = call.request.storeId ∧
    x.approvalRequestId = call.command.approvalRequestId ∧
    x.queryVersion = call.shape.queryVersion call.request.toExportFacts ∧
    x.rowCount = rows.length ∧ x.producedAt = call.executedAt.instant
  authorised : CallAuthorised w'.db call
  ofWindow : ∀ row ∈ rows, ∃ order ∈ w.db.orders, order.storeId = call.request.storeId ∧
    InWindow call.request.toExportFacts order ∧
    moneyRow w.db.storagePolicy x.producedAt order.fetched = .ok row

lemma Inv.releases {w : World} (h : Inv w) {c : Command} {call : Call} {x : DataExport}
    {rows : List ExportRow} {db : Database} (hc : released w c = .ok (call, (x, rows), db)) :
    Releases w (Exports.apply w c) call x rows := by
  obtain ⟨hcall, exportId, hfile⟩ := released_ok hc
  obtain ⟨hkeeps, -, -⟩ := h.release hcall hfile
  obtain ⟨hrows, -, hx, hdb⟩ := finishExecute_ok hfile
  have hafter : (Exports.apply w c).db = db := by
    simp only [Exports.apply, hc]
  refine ⟨hcall, ?_, ?_, ?_, fun row hrow => ?_⟩
  · rw [hafter, hdb]
  · rw [hx]
    exact ⟨rfl, rfl, rfl, rfl, rfl, rfl⟩
  · rw [hafter]
    exact (h.calls call hcall).keep hkeeps
  · obtain ⟨fetched, hfetched, hmoney⟩ := forall₂_mem_right (mapM_ok.mp hrows) hrow
    obtain ⟨order, horder, hstore, hwindow, rfl⟩ := fetch_mem hfetched
    refine ⟨order, horder, hstore, hwindow, ?_⟩
    rw [hx]
    exact hmoney

lemma approved_of_started {w : World} (h : Inv w) {c : Command} {call : Call}
    (hc : started w c = .ok call) : Approved w.db call := by
  obtain ⟨shape, command, now, hstart⟩ := started_ok hc
  obtain ⟨hrequest, -, hauthorised, happroved⟩ := startExecute_ok h.approvals hstart
  exact ⟨⟨hrequest, hauthorised⟩, happroved⟩

lemma Inv.eq_of_approval {w : World} (h : Inv w) {x y : DataExport} (hx : x ∈ w.db.exports)
    (hy : y ∈ w.db.exports) (hsame : x.approvalRequestId = y.approvalRequestId) : x = y := by
  obtain ⟨request, -, hid, -, _, -, ⟨a, ha, haid, -, ⟨hresource, -⟩, -⟩, -⟩ := h.exports x hx
  obtain ⟨request', -, hid', -, _, -, ⟨b, hb, hbid, -, ⟨hresource', -⟩, -⟩, -⟩ := h.exports y hy
  obtain rfl := h.approvals.eq_of_id ha hb (haid.trans (hsame.trans hbid.symm))
  refine List.inj_on_of_nodup_map h.once hx hy ?_
  rw [← hid, ← hid', ← hresource, ← hresource']

/-- Over any run: each request leaves at most once, under an envelope that another than its definer
approved before `execute` read it and that binds its statement; a window is its days. -/
theorem files_leave_once_as_signed (commands : List Command) (c : Command) :
    let w := run commands
    ((w.db.exports.map DataExport.exportRequestId).Nodup ∧ ∀ x ∈ w.db.exports, Signed w.db x) ∧
    (∀ call ∈ w.calls, ∃ before start after, commands = before ++ start :: after ∧
      started (run before) start = .ok call ∧ Approved (run before).db call) ∧
    (∀ call x rows db, released w c = .ok (call, (x, rows), db) →
      Releases w (apply w c) call x rows) ∧
    (∀ facts facts' : ExportFacts, facts ≠ facts' → ∀ shape shape' d d',
      document (statement shape facts) = .ok d → document (statement shape' facts') = .ok d' →
      ¬ Collision d.canonicalJson d'.canonicalJson → d.snapshotHash ≠ d'.snapshotHash) ∧
    (∀ x ∈ w.db.exports, ∀ y ∈ w.db.exports, x.approvalRequestId = y.approvalRequestId → x = y) ∧
    ∀ policy producedAt store first last,
      moneyRows policy producedAt (exportWindowSql w.db store first last) =
        List.flatten <$> (Date.through first last).mapM fun d =>
          moneyRows policy producedAt (exportSql w.db store d) := by
  intro w
  have hinv : Inv w := inv_run commands
  refine ⟨⟨hinv.once, hinv.exports⟩, fun call hcall => ?_, fun call x rows db hc => hinv.releases hc,
    fun facts facts' hne shape shape' d d' hd hd' hfree => digest_separates hd hd' hne hfree,
    fun x hx y hy => hinv.eq_of_approval hx hy, fun policy producedAt store first last => ?_⟩
  · obtain ⟨before, start, after, hsplit, hstarted⟩ := started_of_mem commands call hcall
    exact ⟨before, start, after, hsplit, hstarted, approved_of_started (inv_run before) hstarted⟩
  · rw [exportWindowSql_days hinv.orderIds]
    exact mapM_flatMap

end Run

section Expired

local instance plainText : Unicodedata := normalizedText

def openingDay : Date := ⟨739500, by decide⟩

lemma noon_lt : 739500 * dayMicros < wallLimit := by decide

def noon : Datetime := .ofUtc (739500 * dayMicros) noon_lt

def minuteLater : Datetime := .ofUtc (739500 * dayMicros + 60000000) (by decide)

def bareShape : ExportShape := ⟨[], [], "day", "window", fun _ => "", fun _ _ _ => "", [], ""⟩

def dayFacts : ExportFacts := ⟨.storeDayOrdersV1, .ofNat 4, openingDay, none⟩

def factsDigest : String :=
  "JCS-SHA256-V1:f05c157ed724c45be324885f5eab346400b0dda91c67997cf643ef51e0eeab9a"

def statementDigest : String :=
  "JCS-SHA256-V1:a049171b899fe9353013726ca40aae90887391f78358277d4c3764a7c79faaae"

def exportEnvelope : ApprovalRequest :=
  ⟨.ofNat 1, .exportSanitizedData, "EXPORT_REQUEST", .ofNat 2, 1, factsDigest,
    statementDigest, "sanitized-export-v1", .ownerAdmin,
    [Approvals.separationOfDuty], "EXPORT_SANITIZED_DATA", .ofNat 3, noon.instant - 1,
    minuteLater.instant, .ofNat 4⟩

def definer : ConsentEgress.StaffPrincipal := ⟨.ofNat 3, [.opsApprover], true⟩

def owner : ConsentEgress.StaffPrincipal := ⟨.ofNat 5, [.ownerAdmin], true⟩

/-- The envelope runs out, and is recorded so, between the read of it and the write of the file. -/
def expiredBetween : List Command :=
  [.approval bareShape (.elsewhere
      { Approvals.emptyDatabase.sends.surroundings with storeMember := fun _ _ => true }
      Approvals.emptyResources [] [] fun _ => none),
    .request bareShape ⟨.ofNat 4, .storeDayOrdersV1, openingDay, definer, none, none⟩ noon
      (.ofNat 2),
    .approval bareShape (.raise exportEnvelope),
    .approval bareShape (.decide ⟨.ofNat 1, .approved, 1, factsDigest,
      statementDigest, "OWNER_AGREED", owner, none, none⟩ noon
      (.ofNat 6)),
    .startExecute bareShape ⟨.ofNat 2, .ofNat 1, owner, none, none⟩ noon,
    .approval bareShape (.claimExecution ⟨.ofNat 1, .outboxWorker, 1, "", "", "", none⟩ minuteLater
      (.ofNat 7))]

def releasesUnder (envelope : Uuid) (w : World) (c : Command) : Bool :=
  match released w c with
  | .ok (_, (x, _), _) => x.approvalRequestId = envelope
  | .error _ => false

def digits (v : Value) : Option (List Char) :=
  match jsonValue true v with
  | .ok j => if j.safe then some (Hashing.digestChars j.text) else none
  | .error _ => none

lemma document_digits {v : Value} {digest : String}
    (h : (digits v).map (fun cs => hashPrefix.toList ++ cs) = some digest.toList) :
    ∃ text, document v = .ok ⟨text, digest⟩ := by
  rw [digits] at h
  cases hj : jsonValue true v with
  | error e =>
    rw [hj] at h
    cases h
  | ok j =>
    simp only [hj] at h
    by_cases hsafe : j.safe
    · rw [if_pos hsafe, Option.map_some, Option.some.injEq] at h
      have hdigest : hashPrefix ++ Hashing.sha256 (String.ofList j.text) = digest := by
        rw [← String.toList_inj, String.toList_append, Hashing.sha256_ofList, String.toList_ofList, h]
      refine ⟨String.ofList j.text, ?_⟩
      rw [document, canonicalDocument, hj]
      simp only [Json.dumps, if_pos hsafe, documentOf, hdigest]
      rfl
    · rw [if_neg hsafe] at h
      cases h

lemma document_facts : ∃ text, document dayFacts.value = .ok ⟨text, factsDigest⟩ :=
  document_digits (by decide +kernel)

lemma document_statement :
    ∃ text, document (statement bareShape dayFacts) = .ok ⟨text, statementDigest⟩ :=
  document_digits (by decide +kernel)

def dayRequest : ExportRequest :=
  ⟨dayFacts, .ofNat 2, factsDigest, statementDigest, .ofNat 3, noon.instant⟩

def dayTables (db : Approvals.Database) : Approvals.Database :=
  { db with resources := { db.resources with
    exportRequests := fun id =>
      if id = .ofNat 2 then some ⟨.ofNat 4, 1, factsDigest, statementDigest⟩ else none
    exportDefiners := fun id => if id = .ofNat 2 then some (.ofNat 3) else none } }

lemma approvalTables_day {db : Database} (h : db.requests = [dayRequest]) :
    approvalTables bareShape db = dayTables db.approvals := by
  obtain ⟨snapshot, hsnapshot⟩ := document_facts
  obtain ⟨rendered, hrendered⟩ := document_statement
  have hlookup : ∀ id, lookup ExportRequest.key db.requests id =
      if id = .ofNat 2 then some dayRequest else none := by
    intro id
    rw [h, lookup, List.find?_cons, List.find?_nil]
    by_cases hid : id = .ofNat 2
    · subst hid
      rfl
    · rw [if_neg hid]
      have hkey : dayRequest.key ≠ id := fun heq => hid heq.symm
      simp [hkey]
  have hbinding : readExportRequestBinding bareShape db = fun id =>
      if id = .ofNat 2 then some ⟨.ofNat 4, 1, factsDigest, statementDigest⟩ else none := by
    funext id
    rw [readExportRequestBinding, hlookup]
    split_ifs
    · have hfacts : dayRequest.toExportFacts = dayFacts := rfl
      simp only [Option.bind_eq_bind, Option.bind_some, hfacts, hrendered, hsnapshot, Except.toOption]
      rfl
    · rfl
  have hdefiner : (fun id => (lookup ExportRequest.key db.requests id).map
      ExportRequest.requestedByStaffId) = fun id => if id = .ofNat 2 then some (.ofNat 3) else none := by
    funext id
    rw [hlookup]
    split_ifs <;> rfl
  rw [approvalTables, hbinding, hdefiner, dayTables]

lemma document_of_digits {v : Value} (h : (digits v).isSome) : ∃ d, document v = .ok d := by
  rw [digits] at h
  cases hj : jsonValue true v with
  | error e =>
    rw [hj] at h
    cases h
  | ok j =>
    simp only [hj] at h
    by_cases hsafe : j.safe
    · rw [document, canonicalDocument, hj]
      simp only [Json.dumps, if_pos hsafe]
      exact ⟨_, rfl⟩
    · rw [if_neg hsafe] at h
      cases h

def dayDatabase (approvals : Approvals.Database) : Database := ⟨[dayRequest], [], approvals, [], none⟩

def membersEverywhere : Approvals.Database :=
  { Approvals.emptyDatabase with sends := { Approvals.emptyDatabase.sends with
    surroundings := { Approvals.emptyDatabase.sends.surroundings with
      storeMember := fun _ _ => true } } }

lemma apply_day (approvals : Approvals.Database) (calls : List Call) (command : Approvals.Command) :
    Exports.apply ⟨dayDatabase approvals, calls⟩ (.approval bareShape command) =
      ⟨dayDatabase (Approvals.apply (dayTables approvals) command), calls⟩ := by
  have htables : approvalTables bareShape (dayDatabase approvals) = dayTables approvals :=
    approvalTables_day rfl
  rw [← htables]
  exact World.mk.injEq .. ▸ ⟨rfl, List.append_nil _⟩

lemma request_day : Exports.request bareShape { emptyDatabase with approvals := membersEverywhere }
    ⟨.ofNat 4, .storeDayOrdersV1, openingDay, definer, none, none⟩ noon (.ofNat 2) =
      .ok (dayDatabase membersEverywhere) := by
  obtain ⟨snapshot, hsnapshot⟩ := document_facts
  obtain ⟨rendered, hrendered⟩ := document_statement
  have hfacts : (⟨.storeDayOrdersV1, .ofNat 4, openingDay, none⟩ : ExportFacts) = dayFacts := rfl
  rw [Exports.request, exportWindow]
  simp only [ok_bind, hfacts, hsnapshot, hrendered]
  rfl

lemma run_requested : run (expiredBetween.take 2) = ⟨dayDatabase membersEverywhere, []⟩ := by
  have hmembers : Exports.apply ⟨emptyDatabase, []⟩ (.approval bareShape (.elsewhere
      { Approvals.emptyDatabase.sends.surroundings with storeMember := fun _ _ => true }
      Approvals.emptyResources [] [] fun _ => none)) =
      ⟨{ emptyDatabase with approvals := membersEverywhere }, []⟩ := rfl
  rw [run, expiredBetween, List.take_succ_cons, List.take_succ_cons, List.take_zero,
    List.foldl_cons, List.foldl_cons, List.foldl_nil, hmembers]
  simp only [Exports.apply, released, attempt, request_day]
  rfl

def agreed : Approvals.Database :=
  [Approvals.Command.raise exportEnvelope, .decide ⟨.ofNat 1, .approved, 1, factsDigest,
    statementDigest, "OWNER_AGREED", owner, none, none⟩ noon (.ofNat 6)].foldl
      (fun db command => Approvals.apply (dayTables db) command) membersEverywhere

def releaseCommand : ExportExecutionCommand := ⟨.ofNat 2, .ofNat 1, owner, none, none⟩

def Covers (b : Approval) : Prop :=
  (b.storeId = dayRequest.storeId ∧ b.action = .exportSanitizedData ∧
      b.resourceType = "EXPORT_REQUEST") ∧
    (b.resourceId = dayRequest.id ∧ b.resourceVersion = 1) ∧ b.snapshotHash = factsDigest ∧
    b.renderedHash = statementDigest ∧ b.status = .approved ∧ noon.instant < b.expiresAt

instance (b : Approval) : Decidable (Covers b) := by
  unfold Covers
  infer_instance

lemma compareDigest_self {digest : String} (h : Text.ascii digest) :
    compareDigest digest digest = .ok true := by
  rw [compareDigest, require_true ⟨h, h⟩, ok_bind, decide_eq_true rfl]

lemma ascii_of_all {s : String} (h : s.toList.all (fun c => decide (c.toNat < 128)) = true) :
    Text.ascii s := fun c hc => of_decide_eq_true (List.all_eq_true.mp h c hc)

lemma requireExportApproval_covers {b : Approval} (h : Covers b) (retired : String) :
    requireExportApproval (some b) dayRequest factsDigest statementDigest retired noon = .ok () := by
  obtain ⟨hstore, hresource, hsnapshot, hrendered, hstatus, hlive⟩ := h
  have hfacts : Text.ascii factsDigest := ascii_of_all (by decide)
  have hstatement : Text.ascii statementDigest := ascii_of_all (by decide)
  have haware : noon.aware := by decide
  rw [requireExportApproval, ofOption, ok_bind, require_true hstore, ok_bind, require_true hresource,
    ok_bind, requireSameContent, hsnapshot, hrendered, compareDigest_self hfacts, ok_bind,
    require_true rfl, ok_bind, compareDigest_self hstatement, ok_bind, if_pos rfl, ok_bind,
    require_true hstatus, ok_bind, require_true haware, ok_bind, require_true hlive]

def expiredTables : Approvals.Database :=
  Approvals.apply (dayTables agreed)
    (.claimExecution ⟨.ofNat 1, .outboxWorker, 1, "", "", "", none⟩ minuteLater (.ofNat 7))

lemma agreed_checks :
    (lookup Approvals.Approval.key agreed.approvals (.ofNat 1)).map (fun b => decide (Covers b)) =
        some true ∧
      agreed.sends.surroundings.storeMember owner.staffUserId (.ofNat 4) = true ∧
      (requireSeparateApprover (dayDatabase agreed) (.ofNat 1) (.ofNat 3)).toOption = some () ∧
      expiredTables.approvals.map (fun a => (a.id, a.status)) =
        [(.ofNat 1, ConsentEgress.ApprovalStatus.expired)] := by
  decide

lemma startExecute_passes {shape : ExportShape} {db : Database} {command : ExportExecutionCommand}
    {now : Datetime} {request : ExportRequest} {snapshot rendered retired : CanonicalDocument}
    (hrole : requireExportRole command.principal
      "carrying out an export requires an owner or approver role with MFA" = .ok ())
    (hrequest : lookup ExportRequest.key db.requests command.exportRequestId = some request)
    (hmember : requireStoreMembership db command.principal request.storeId = .ok ())
    (hstore : ∀ store ∈ command.expectedStoreId, store = request.storeId)
    (hsnapshot : document request.toExportFacts.value = .ok snapshot)
    (hrendered : document (statement shape request.toExportFacts) = .ok rendered)
    (hretired : document (retiredStatement request.toExportFacts) = .ok retired)
    (happroval : requireExportApproval (lookup Approvals.Approval.key db.approvals.approvals
      command.approvalRequestId) request snapshot.snapshotHash rendered.snapshotHash
      retired.snapshotHash (command.executedAt.getD now) = .ok ())
    (hseparate : requireSeparateApprover db command.approvalRequestId request.requestedByStaffId =
      .ok ()) :
    startExecute shape db command now = .ok ⟨command, shape, request, command.executedAt.getD now⟩ := by
  simp only [startExecute, hrole, ok_bind, ofOption, hrequest, hmember, require_true hstore, hsnapshot,
    hrendered, hretired, happroval, hseparate]

lemma startExecute_day : startExecute bareShape (dayDatabase agreed) releaseCommand noon =
    .ok ⟨releaseCommand, bareShape, dayRequest, noon⟩ := by
  obtain ⟨snapshot, hsnapshot⟩ := document_facts
  obtain ⟨rendered, hrendered⟩ := document_statement
  obtain ⟨retired, hretired⟩ := document_of_digits (v := retiredStatement dayFacts) (by decide)
  obtain ⟨hcovers, hmember, hpassed, -⟩ := agreed_checks
  obtain ⟨b, hb, hcovers⟩ := Option.map_eq_some_iff.mp hcovers
  have happroval : requireExportApproval (lookup Approvals.Approval.key agreed.approvals (.ofNat 1))
      dayRequest factsDigest statementDigest retired.snapshotHash noon = .ok () := by
    rw [hb]
    exact requireExportApproval_covers (of_decide_eq_true hcovers) _
  have hrole : requireExportRole owner
      "carrying out an export requires an owner or approver role with MFA" = .ok () := by
    rw [requireExportRole, require_true (by decide)]
  have hmember : requireStoreMembership (dayDatabase agreed) owner (.ofNat 4) = .ok () := by
    rw [requireStoreMembership, dayDatabase, require_true hmember]
  have hseparate : requireSeparateApprover (dayDatabase agreed) (.ofNat 1) (.ofNat 3) = .ok () := by
    cases h : requireSeparateApprover (dayDatabase agreed) (.ofNat 1) (.ofNat 3) with
    | ok _ => rfl
    | error refusal =>
      rw [h] at hpassed
      cases hpassed
  exact startExecute_passes hrole rfl hmember (fun _ h => nomatch h) hsnapshot hrendered hretired
    happroval hseparate

lemma run_expired : run expiredBetween = ⟨dayDatabase expiredTables,
    [⟨releaseCommand, bareShape, dayRequest, noon⟩]⟩ := by
  have hsplit : run expiredBetween =
      (expiredBetween.drop 2).foldl Exports.apply (run (expiredBetween.take 2)) := by
    rw [run, run, ← List.foldl_append, List.take_append_drop]
  have hstart : Exports.apply ⟨dayDatabase agreed, []⟩
      (.startExecute bareShape releaseCommand noon) =
        ⟨dayDatabase agreed, [⟨releaseCommand, bareShape, dayRequest, noon⟩]⟩ := by
    simp only [Exports.apply, released, attempt, callsAfter, started, startExecute_day, ok_bind]
    rfl
  have hagreed : Approvals.apply (dayTables (Approvals.apply (dayTables membersEverywhere)
      (.raise exportEnvelope))) (.decide ⟨.ofNat 1, .approved, 1, factsDigest, statementDigest,
        "OWNER_AGREED", owner, none, none⟩ noon (.ofNat 6)) = agreed := by
    rw [agreed, List.foldl_cons, List.foldl_cons, List.foldl_nil]
  rw [releaseCommand] at hstart ⊢
  rw [hsplit, run_requested, expiredBetween, List.drop_succ_cons, List.drop_succ_cons, List.drop_zero,
    List.foldl_cons, List.foldl_cons, List.foldl_cons, List.foldl_cons, List.foldl_nil,
    apply_day, apply_day, hagreed, hstart, apply_day, expiredTables]

theorem released_after_expiry : ∃ call x rows db,
    released (run expiredBetween) (.finishExecute 0 (.ofNat 8)) = .ok (call, (x, rows), db) ∧
      ∃ a ∈ db.approvals.approvals, a.id = x.approvalRequestId ∧ a.status = .expired := by
  have hstatus : (run expiredBetween).db.approvals.approvals.map (fun a => (a.id, a.status)) =
      [(.ofNat 1, ConsentEgress.ApprovalStatus.expired)] := by
    rw [run_expired]
    exact agreed_checks.2.2.2
  have hfile : releasesUnder (.ofNat 1) (run expiredBetween) (.finishExecute 0 (.ofNat 8)) = true := by
    rw [run_expired]
    decide
  rw [releasesUnder] at hfile
  cases hreleased : released (run expiredBetween) (.finishExecute 0 (.ofNat 8)) with
  | error refusal =>
    rw [hreleased] at hfile
    cases hfile
  | ok result =>
    obtain ⟨call, ⟨x, rows⟩, db⟩ := result
    rw [hreleased] at hfile
    obtain ⟨-, exportId, hfinish⟩ := released_ok hreleased
    obtain ⟨-, -, -, rfl⟩ := finishExecute_ok hfinish
    have hexpired : ((.ofNat 1 : Uuid), ConsentEgress.ApprovalStatus.expired) ∈
        (run expiredBetween).db.approvals.approvals.map fun a => (a.id, a.status) := by
      rw [hstatus]
      exact List.mem_singleton_self _
    obtain ⟨a, ha, hboth⟩ := List.mem_map.mp hexpired
    obtain ⟨hid, hexp⟩ := Prod.mk.inj hboth
    exact ⟨call, x, rows, _, rfl, a, ha, hid.trans (decide_eq_true_iff.mp hfile).symm, hexp⟩

end Expired
end NhaTrangLaundry.Db.Exports
