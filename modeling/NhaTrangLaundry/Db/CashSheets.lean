import NhaTrangLaundry.Db.CashCounts
import NhaTrangLaundry.Lib.Succession

/-! Whatever is recorded, the entries of a store, day and kind are one chain of corrections, and
each closing count can be recomputed from what it stores. -/

namespace NhaTrangLaundry.Db.CashCounts

open Lib Lib.Succession Outcome Sorting Domain Domain.Canonical Domain.CashCount

variable {table table' found : List CashCountEntry} {row entry : CashCountEntry} {sheet : Sheet}

def chain (table : List CashCountEntry) (sheet : Sheet) : List CashCountEntry :=
  table.filter fun entry => entry.sheet = sheet

def Chained (table : List CashCountEntry) (sheet : Sheet) : Prop :=
  Linked CashCountEntry.entryId CashCountEntry.supersedesId none (chain table sheet)

lemma mem_chain : entry ∈ chain table sheet ↔ entry ∈ table ∧ entry.sheet = sheet := by
  simp [chain]

structure Inserted (table : List CashCountEntry) (row : CashCountEntry) : Prop where
  fresh : ∀ entry ∈ table, entry.entryId ≠ row.entryId
  same : ∀ s ∈ row.supersedesId, ∃ entry ∈ table, entry.entryId = s ∧ entry.sheet = row.sheet
  once : ∀ s ∈ row.supersedesId, ∀ entry ∈ table, entry.supersedesId ≠ some s
  original : row.supersedesId = none → ∀ entry ∈ table, entry.sheet = row.sheet →
    entry.supersedesId ≠ none

lemma insert_spec (h : insert table row = .ok table') :
    table' = table ++ [row] ∧ Inserted table row := by
  simp only [insert, bind_ok, require_ok] at h
  obtain ⟨_, hsame, _, -, _, -, _, hfresh, _, honce, _, horiginal, h⟩ := h
  exact ⟨(Except.ok.inj h).symm, hfresh, hsame, honce, horiginal⟩

structure Sound (table : List CashCountEntry) : Prop where
  nodup : (table.map CashCountEntry.entryId).Nodup
  chained : ∀ sheet, Chained table sheet
  same : ∀ entry ∈ table, ∀ s ∈ entry.supersedesId,
    ∃ earlier ∈ table, earlier.entryId = s ∧ earlier.sheet = entry.sheet

lemma sound_nil : Sound [] :=
  ⟨List.nodup_nil, fun _ => trivial, fun _ h => absurd h List.not_mem_nil⟩

lemma Sound.nodup_chain (h : Sound table) (sheet : Sheet) :
    ((chain table sheet).map CashCountEntry.entryId).Nodup :=
  h.nodup.sublist (List.filter_sublist.map _)

lemma Inserted.names_last (h : Inserted table row) (hsound : Sound table) :
    row.supersedesId = (chain table row.sheet).getLast?.map CashCountEntry.entryId := by
  cases hs : row.supersedesId with
  | none =>
    have hnone : chain table row.sheet = [] := by
      by_contra hne
      obtain ⟨first, rest, hchain⟩ := List.exists_cons_of_ne_nil hne
      have hmem : first ∈ chain table row.sheet := hchain ▸ List.mem_cons_self
      have hlinked := hsound.chained row.sheet
      rw [Chained, hchain] at hlinked
      exact h.original hs first (mem_chain.mp hmem).1 (mem_chain.mp hmem).2 hlinked.1
    rw [hnone]
    rfl
  | some s =>
    obtain ⟨entry, hmem, rfl, hsheet⟩ := h.same s hs
    have hunnamed : ∀ b ∈ chain table row.sheet, b.supersedesId ≠ some entry.entryId :=
      fun b hb => h.once _ hs b (mem_chain.mp hb).1
    rw [(hsound.chained row.sheet).unnamed_iff (hsound.nodup_chain row.sheet)
      (mem_chain.mpr ⟨hmem, hsheet⟩)] at hunnamed
    rw [hunnamed]
    rfl

lemma chain_append (table : List CashCountEntry) (row : CashCountEntry) (sheet : Sheet) :
    chain (table ++ [row]) sheet =
      chain table sheet ++ if row.sheet = sheet then [row] else [] := by
  rw [chain, List.filter_append, List.filter_cons, List.filter_nil]
  simp only [decide_eq_true_eq]
  rfl

lemma Inserted.sound (h : Inserted table row) (hsound : Sound table) : Sound (table ++ [row]) where
  nodup := by
    rw [List.map_append, List.map_singleton]
    refine List.nodup_append.mpr ⟨hsound.nodup, List.nodup_singleton _, ?_⟩
    rintro _ ha _ hb rfl
    obtain ⟨entry, hmem, heq⟩ := List.mem_map.mp ha
    exact h.fresh entry hmem (heq.trans (List.mem_singleton.mp hb))
  chained sheet := by
    rw [Chained, chain_append]
    split_ifs with hsheet
    · refine Linked.append (hsound.chained sheet) ?_
      rw [h.names_last hsound, hsheet, Option.or_none]
    · rw [List.append_nil]
      exact hsound.chained sheet
  same entry hmem s hs := by
    rcases List.mem_append.mp hmem with hold | hnew
    · obtain ⟨earlier, hearlier, hkey⟩ := hsound.same entry hold s hs
      exact ⟨earlier, List.mem_append_left _ hearlier, hkey⟩
    · rw [List.mem_singleton.mp hnew] at hs ⊢
      obtain ⟨earlier, hearlier, hkey⟩ := h.same s hs
      exact ⟨earlier, List.mem_append_left _ hearlier, hkey⟩

lemma Sound.superseded_iff (h : Sound table) (hmem : entry ∈ table) :
    superseded table entry = false ↔ (chain table entry.sheet).getLast? = some entry := by
  rw [← (h.chained entry.sheet).unnamed_iff (h.nodup_chain entry.sheet)
    (mem_chain.mpr ⟨hmem, rfl⟩)]
  simp only [superseded, List.any_eq_false, decide_eq_true_eq]
  constructor
  · exact fun hnone b hb => hnone b (mem_chain.mp hb).1
  · intro hnone b hb hnames
    refine hnone b (mem_chain.mpr ⟨hb, ?_⟩) hnames
    obtain ⟨earlier, hearlier, hid, hsheet⟩ := h.same b hb _ hnames
    rw [← hsheet, List.inj_on_of_nodup_map h.nodup hearlier hmem hid]

variable {storeId : Uuid} {day : Date} {limit : Nat}

lemma mem_entries
    (hall : (table.filter fun e : CashCountEntry =>
      e.storeId = storeId ∧ e.businessDay = day).length ≤ limit) :
    entry ∈ entries table storeId day limit ↔
      entry ∈ table ∧ entry.storeId = storeId ∧ entry.businessDay = day := by
  rw [entries, List.take_of_length_le (by rwa [length_sortBy]), mem_sortBy]
  simp

lemma Sound.current_eq (h : Sound table) (kind : CashCountKind)
    (hall : (table.filter fun e : CashCountEntry =>
      e.storeId = storeId ∧ e.businessDay = day).length ≤ limit) :
    current table (entries table storeId day limit) kind =
      (chain table ⟨storeId, day, kind⟩).getLast? := by
  have hmem : ∀ e, e ∈ (entries table storeId day limit).filter
      (fun entry => entry.kind = kind && !superseded table entry) ↔
      (chain table ⟨storeId, day, kind⟩).getLast? = some e := by
    intro e
    simp only [List.mem_filter, mem_entries hall, Bool.and_eq_true, decide_eq_true_eq,
      Bool.not_eq_true']
    constructor
    · rintro ⟨⟨hmem, rfl, rfl⟩, rfl, hnone⟩
      exact (h.superseded_iff hmem).mp hnone
    · intro hlast
      obtain ⟨hmem, hsheet⟩ := mem_chain.mp (List.mem_of_getLast? hlast)
      have hnone := (h.superseded_iff hmem).mpr (hsheet ▸ hlast)
      cases hsheet
      exact ⟨⟨hmem, rfl, rfl⟩, rfl, hnone⟩
  rw [current]
  cases hlast : ((entries table storeId day limit).filter
      (fun entry => entry.kind = kind && !superseded table entry)).getLast? with
  | none =>
    rw [List.getLast?_eq_none_iff] at hlast
    rw [hlast] at hmem
    cases hchain : (chain table ⟨storeId, day, kind⟩).getLast? with
    | none => rfl
    | some e => exact absurd ((hmem e).mpr hchain) List.not_mem_nil
  | some e => exact ((hmem e).mp (List.mem_of_getLast? hlast)).symm

lemma current_mem {kind : CashCountKind} (h : current table found kind = some entry) :
    entry ∈ found ∧ entry.kind = kind := by
  have hmem := List.mem_of_getLast? h
  simp only [List.mem_filter, Bool.and_eq_true, decide_eq_true_eq] at hmem
  exact ⟨hmem.1, hmem.2.1⟩

lemma entries_mem (h : entry ∈ entries table storeId day limit) :
    entry ∈ table ∧ entry.storeId = storeId ∧ entry.businessDay = day := by
  have hmem := mem_sortBy.mp (List.mem_of_mem_take h)
  simpa only [List.mem_filter, decide_eq_true_eq] using hmem

lemma current_float
    (h : current table (entries table storeId day limit) .openingFloat = some entry) :
    entry ∈ table ∧ entry.sheet = ⟨storeId, day, .openingFloat⟩ := by
  obtain ⟨hfound, hkind⟩ := current_mem h
  obtain ⟨hmem, rfl, rfl⟩ := entries_mem hfound
  exact ⟨hmem, by rw [CashCountEntry.sheet, hkind]⟩

section Kept

variable [Unicodedata] {opening : Option CashCountEntry} {movement : DrawerMovement}
  {counted : Nat} {closing : ClosingRecord} {command : RecordCashCountCommand}

omit [Unicodedata] in
lemma refusing_ok {α : Type} {x : Except CashCountRefusal α} {a : α} (h : refusing x = .ok a) :
    x = .ok a := by
  cases x with
  | error e => cases h
  | ok b => exact congrArg _ (Except.ok.inj h)

omit [Unicodedata] in
lemma raising_ok {α : Type} {x : Except PyException α} {a : α} (h : raising x = .ok a) :
    x = .ok a := by
  cases x with
  | error e => cases h
  | ok b => exact congrArg _ (Except.ok.inj h)

def members (opening : Option CashCountEntry) (movement : DrawerMovement) (day : Date)
    (counted : Nat) : List (String × Json) :=
  traceFields day counted (expectedCash (opening.map (·.countedVnd)) movement)
    (cashDifference counted (expectedCash (opening.map (·.countedVnd)) movement))

lemma closingRecord_spec (h : closingRecord opening movement day counted = .ok closing) :
    replayTrace closing.trace =
        .ok ⟨.obj (members opening movement day counted), closing.traceHash⟩ ∧
      closingTrace day counted (expectedCash (opening.map (·.countedVnd)) movement)
          (cashDifference counted (expectedCash (opening.map (·.countedVnd)) movement)) =
        .ok ⟨.obj (members opening movement day counted), closing.traceHash⟩ := by
  simp only [closingRecord, bind_ok] at h
  obtain ⟨trace, htrace, h⟩ := h
  cases h
  have hdocument : trace.document = .obj (members opening movement day counted) := by
    obtain ⟨d, -, hd⟩ := bind_ok.mp htrace
    cases hd
    rfl
  have hholds : Json.Holds (Json.columnOrder trace.document)
      (members opening movement day counted) := by
    rw [hdocument]
    exact ⟨Json.same_columnOrder (distinct_traceFields _ _ _ _),
      Json.distinct_columnOrder (distinct_traceFields _ _ _ _)⟩
  obtain ⟨hfloat, hmovement⟩ := expectedCash_inputs (opening.map (·.countedVnd)) movement
  have hexpected : expectedCash (expectedCash (opening.map (·.countedVnd)) movement).floatVnd
      (expectedCash (opening.map (·.countedVnd)) movement).movement =
      expectedCash (opening.map (·.countedVnd)) movement := by
    rw [hfloat, hmovement]
  have hsame : trace = ⟨.obj (members opening movement day counted), trace.traceHash⟩ := by
    rw [← hdocument]
  rw [replayTrace_stored hholds hexpected, htrace, ← hsame]
  exact ⟨rfl, rfl⟩

def Closed (table : List CashCountEntry) (entry : CashCountEntry) : Prop :=
  ∀ closing ∈ entry.closing, ∃ opening movement,
    (∀ float ∈ opening,
      float ∈ table ∧ float.sheet = ⟨entry.storeId, entry.businessDay, .openingFloat⟩) ∧
    closingRecord opening movement entry.businessDay entry.countedVnd = .ok closing

lemma record_spec (h : record table movement command = .ok table') :
    ∃ row, insert table row = .ok table' ∧
      row.sheet = ⟨command.storeId, command.businessDay, command.kind⟩ ∧
      row.supersedesId = command.supersedesEntryId ∧ Closed table row := by
  simp only [record, bind_ok] at h
  obtain ⟨day, hday, counted, -, reason, -, _, -, _, -, closing, hclosing, h⟩ := h
  obtain rfl : command.businessDay = day := by
    obtain ⟨_, -, hday⟩ := bind_ok.mp (refusing_ok hday)
    exact Except.ok.inj hday
  refine ⟨_, h, rfl, rfl, ?_⟩
  intro made hmade
  cases hkind : command.kind with
  | openingFloat =>
    rw [hkind] at hclosing
    rw [← Except.ok.inj hclosing] at hmade
    cases hmade
  | closingCount =>
    rw [hkind] at hclosing
    obtain ⟨stored, hstored, rfl⟩ := map_ok.mp hclosing
    obtain rfl : stored = made := Option.some.inj hmade
    exact ⟨_, movement, fun float hfloat => current_float hfloat, raising_ok hstored⟩

/-- The command's own values are what an entry may be. -/
structure Admissible (command : RecordCashCountCommand) : Prop where
  today : command.businessDay = command.today
  counted : 0 ≤ command.countedVnd ∧ command.countedVnd ≤ countedMaxVnd
  reason : ∃ reason,
    correctionReason command.note command.supersedesEntryId.isSome = .ok reason

lemma record_refused (hcommand : Admissible command) (hnames : command.supersedesEntryId ≠
      (current table (entries table command.storeId command.businessDay historyMaxEntries)
        command.kind).map (·.entryId)) :
    record table movement command =
      .error (.refused
        (if command.supersedesEntryId = none then .alreadyRecorded else .stale)) := by
  obtain ⟨reason, hreason⟩ := hcommand.reason
  have hday : recordingDay command.businessDay command.today = .ok command.businessDay := by
    rw [recordingDay, require_true hcommand.today]
    rfl
  have hcounted : countedAmount command.countedVnd = .ok command.countedVnd.toNat := by
    rw [countedAmount, require_true hcommand.counted.1, require_true hcommand.counted.2]
    rfl
  rw [record, hday, hcounted, hreason]
  simp only [refusing, ok_bind]
  cases hs : command.supersedesEntryId with
  | none =>
    rw [hs] at hnames
    have hstands : ¬ (current table (entries table command.storeId command.businessDay
        historyMaxEntries) command.kind).isNone := by
      intro hnone
      rw [Option.isNone_iff_eq_none.mp hnone] at hnames
      exact hnames rfl
    rw [if_pos rfl, require, if_neg (by simpa using hstands)]
    rfl
  | some s =>
    rw [hs] at hnames
    rw [if_neg (by simp), require_true (by simp), ok_bind, require,
      if_neg fun hnamed => hnames (hnamed s rfl).symm]
    rfl

/-- The tables that recording leaves, whatever the ledgers say of the drawer meanwhile. -/
inductive Recorded : List CashCountEntry → Prop
  | empty : Recorded []
  | record {table table' : List CashCountEntry} (movement : DrawerMovement)
      (command : RecordCashCountCommand) (h : Recorded table)
      (hrecord : record table movement command = .ok table') : Recorded table'

lemma Closed.mono (h : Closed table entry) (row : CashCountEntry) :
    Closed (table ++ [row]) entry := by
  intro closing hclosing
  obtain ⟨opening, movement, hfloat, hmade⟩ := h closing hclosing
  exact ⟨opening, movement,
    fun float hf => ⟨List.mem_append_left _ (hfloat float hf).1, (hfloat float hf).2⟩, hmade⟩

lemma Recorded.sound (h : Recorded table) : Sound table := by
  induction h with
  | empty => exact sound_nil
  | record movement command _ hrecord ih =>
    obtain ⟨row, hinsert, -⟩ := record_spec hrecord
    obtain ⟨rfl, hinserted⟩ := insert_spec hinsert
    exact hinserted.sound ih

lemma Recorded.closed (h : Recorded table) : ∀ entry ∈ table, Closed table entry := by
  induction h with
  | empty => exact fun _ h => absurd h List.not_mem_nil
  | record movement command _ hrecord ih =>
    obtain ⟨row, hinsert, -, -, hclosed⟩ := record_spec hrecord
    obtain ⟨rfl, -⟩ := insert_spec hinsert
    intro entry hmem
    rcases List.mem_append.mp hmem with hold | hnew
    · exact (ih entry hold).mono row
    · rw [List.mem_singleton.mp hnew]
      exact hclosed.mono row

/-- A store's day, with no more entries than one read returns. -/
structure CashDay where
  table : List CashCountEntry
  recorded : Recorded table
  storeId : Uuid
  day : Date
  within : (table.filter fun e : CashCountEntry =>
    e.storeId = storeId ∧ e.businessDay = day).length ≤ historyMaxEntries

namespace CashDay

variable (sheets : CashDay) (kind : CashCountKind)

def shown : List CashCountEntry :=
  entries sheets.table sheets.storeId sheets.day historyMaxEntries

def sheetOf : Sheet :=
  ⟨sheets.storeId, sheets.day, kind⟩

def standing : Option Uuid :=
  (chain sheets.table (sheets.sheetOf kind)).getLast?.map (·.entryId)

structure Asks (command : RecordCashCountCommand) : Prop where
  store : command.storeId = sheets.storeId
  day : command.businessDay = sheets.day
  kind : command.kind = kind

end CashDay

/-- After any run, the entries of a store, day and kind are one chain of corrections; a day within
the bound of a read shows its last entry; what is accepted next names that one, and what names
another is refused. -/
theorem cash_sheet_is_one_chain :
    (∀ table, Recorded table → ∀ sheet, Chained table sheet) ∧
    ∀ (sheets : CashDay) (kind : CashCountKind),
      current sheets.table sheets.shown kind =
        (chain sheets.table (sheets.sheetOf kind)).getLast? ∧
      (∀ entry ∈ chain sheets.table (sheets.sheetOf kind),
        superseded sheets.table entry = false ↔
          current sheets.table sheets.shown kind = some entry) ∧
      ∀ movement command, sheets.Asks kind command →
        (∀ table', record sheets.table movement command = .ok table' →
          command.supersedesEntryId = sheets.standing kind ∧
          ∃ row, table' = sheets.table ++ [row] ∧
            chain table' (sheets.sheetOf kind) =
              chain sheets.table (sheets.sheetOf kind) ++ [row]) ∧
        (Admissible command → command.supersedesEntryId ≠ sheets.standing kind →
          record sheets.table movement command =
            .error (.refused
              (if command.supersedesEntryId = none then .alreadyRecorded else .stale))) := by
  refine ⟨fun _ hrecorded sheet => hrecorded.sound.chained sheet, fun sheets kind => ?_⟩
  have hsound := sheets.recorded.sound
  have hcurrent : current sheets.table sheets.shown kind =
      (chain sheets.table (sheets.sheetOf kind)).getLast? := hsound.current_eq kind sheets.within
  refine ⟨hcurrent, ?_, ?_⟩
  · intro entry hmem
    obtain ⟨htable, hsheet⟩ := mem_chain.mp hmem
    rw [hcurrent, ← hsheet]
    exact hsound.superseded_iff htable
  · rintro movement command ⟨hstore, hday, rfl⟩
    have hsheet : (⟨command.storeId, command.businessDay, command.kind⟩ : Sheet) =
        sheets.sheetOf command.kind := by
      rw [hstore, hday]
      rfl
    constructor
    · intro table' hrecord
      obtain ⟨row, hinsert, hrow, hnames, -⟩ := record_spec hrecord
      obtain ⟨rfl, hinserted⟩ := insert_spec hinsert
      have hlast := hinserted.names_last hsound
      rw [hnames, hrow, hsheet] at hlast
      refine ⟨hlast, row, rfl, ?_⟩
      rw [chain_append, if_pos (hrow.trans hsheet)]
    · intro hcommand hnames
      refine record_refused hcommand ?_
      rw [hstore, hday]
      rw [CashDay.standing, ← hcurrent] at hnames
      exact hnames

structure ClosingCount where
  table : List CashCountEntry
  recorded : Recorded table
  entry : CashCountEntry
  kept : entry ∈ table
  closing : ClosingRecord
  closes : entry.closing = some closing

/-- What the books say of one closing count: the float and the drawer it was made from. -/
structure Explained (count : ClosingCount) (opening : Option CashCountEntry)
    (movement : DrawerMovement) : Prop where
  float : ∀ float ∈ opening, float ∈ count.table ∧
    float.sheet = ⟨count.entry.storeId, count.entry.businessDay, .openingFloat⟩
  made : closingRecord opening movement count.entry.businessDay count.entry.countedVnd =
    .ok count.closing

lemma Explained.changed {count : ClosingCount} (h : Explained count opening movement)
    {table' : List CashCountEntry} {movement' : DrawerMovement} {sheet : CashCountDay}
    (hread : readDay table' movement' count.entry.storeId count.entry.businessDay = .ok sheet)
    (hsame : sheet.closingCount = some count.entry) :
    (sheet.changedSinceCount = false →
      (sheet.openingFloat.map (·.countedVnd) = opening.map (·.countedVnd) ∧
        movement' = movement) ∨
      Collide
        (.obj (members opening movement count.entry.businessDay count.entry.countedVnd))
        (.obj (members sheet.openingFloat movement' count.entry.businessDay
          count.entry.countedVnd))) ∧
    (sheet.openingFloat.map (·.countedVnd) = opening.map (·.countedVnd) → movement' = movement →
      sheet.changedSinceCount = false) := by
  obtain ⟨-, htrace⟩ := closingRecord_spec h.made
  simp only [readDay, bind_ok] at hread
  obtain ⟨changed, hchanged, hread⟩ := hread
  cases hread
  dsimp only at hsame ⊢
  rw [hsame] at hchanged
  obtain ⟨now, hnow, hchanged⟩ := bind_ok.mp hchanged
  have hflag : changed = false ↔ count.closing.traceHash = now.traceHash := by
    rw [← Except.ok.inj hchanged, count.closes]
    simp
  rw [hflag]
  constructor
  · intro hhash
    obtain ⟨hfloat, hmovement⟩ := expectedCash_inputs (opening.map (·.countedVnd)) movement
    have hdetermined := closingTrace_determines htrace hnow hhash
    rw [hfloat, hmovement, (expectedCash_inputs _ movement').1,
      (expectedCash_inputs _ movement').2] at hdetermined
    rcases hdetermined with ⟨hfloat', hmovement'⟩ | hcollide
    · exact .inl ⟨hfloat'.symm, hmovement'.symm⟩
    · obtain ⟨d, -, hd⟩ := bind_ok.mp hnow
      cases hd
      exact .inr hcollide
  · intro hfloat hmovement
    rw [hfloat, hmovement, htrace] at hnow
    cases hnow
    rfl

/-- Every closing count that was ever recorded is recomputed, to its hash, from the trace it
stores; and a later reading of the day calls it changed if and only if the books now say something
else than that trace, but for traces of one digest. -/
theorem closing_count_replays (count : ClosingCount) :
    ∃ opening movement, Explained count opening movement ∧
      replayTrace count.closing.trace =
        .ok ⟨.obj (members opening movement count.entry.businessDay count.entry.countedVnd),
          count.closing.traceHash⟩ ∧
      ∀ table' movement' sheet,
        readDay table' movement' count.entry.storeId count.entry.businessDay = .ok sheet →
        sheet.closingCount = some count.entry →
        (sheet.changedSinceCount = false →
          (sheet.openingFloat.map (·.countedVnd) = opening.map (·.countedVnd) ∧
            movement' = movement) ∨
          Collide
            (.obj (members opening movement count.entry.businessDay count.entry.countedVnd))
            (.obj (members sheet.openingFloat movement' count.entry.businessDay
              count.entry.countedVnd))) ∧
        (sheet.openingFloat.map (·.countedVnd) = opening.map (·.countedVnd) →
          movement' = movement → sheet.changedSinceCount = false) := by
  obtain ⟨opening, movement, hfloat, hmade⟩ :=
    count.recorded.closed count.entry count.kept count.closing count.closes
  refine ⟨opening, movement, ⟨hfloat, hmade⟩, (closingRecord_spec hmade).1, ?_⟩
  intro table' movement' sheet hread hsame
  exact Explained.changed ⟨hfloat, hmade⟩ hread hsame

end Kept

section Counted

local instance plainNotes : Unicodedata := normalizedText

lemma firstDay_lt : 730179 < Gregorian.maxDay := by decide

def floatCommand (entryId : Nat) (supersedes : Option Nat) (counted : Int) :
    RecordCashCountCommand where
  storeId := ⟨1⟩
  businessDay := ⟨730179, firstDay_lt⟩
  kind := .openingFloat
  countedVnd := counted
  supersedesEntryId := supersedes.map fun n => ⟨Fin.ofNat _ n⟩
  note := .ok (supersedes.map fun _ => "sót tờ 50.000")
  today := ⟨730179, firstDay_lt⟩
  entryId := ⟨Fin.ofNat _ entryId⟩
  recordedAt := entryId

def stillDrawer : DrawerMovement := ⟨0, 0, 0, 0, 0, 0, 0, 0⟩

def floatTable : List CashCountEntry :=
  [⟨⟨2⟩, ⟨1⟩, ⟨730179, firstDay_lt⟩, .openingFloat, 500000, none, none, none, 2⟩,
    ⟨⟨3⟩, ⟨1⟩, ⟨730179, firstDay_lt⟩, .openingFloat, 550000, some ⟨2⟩, some "sót tờ 50.000", none, 3⟩]

lemma recorded_floatTable : Recorded floatTable :=
  .record stillDrawer (floatCommand 3 (some 2) 550000)
    (.record stillDrawer (floatCommand 2 none 500000) .empty rfl) rfl

lemma within_floatTable : (floatTable.filter fun e : CashCountEntry =>
    e.storeId = ⟨1⟩ ∧ e.businessDay = ⟨730179, firstDay_lt⟩).length ≤ historyMaxEntries := by
  decide

def floatDay : CashDay :=
  ⟨floatTable, recorded_floatTable, ⟨1⟩, ⟨730179, firstDay_lt⟩, within_floatTable⟩

/-- A second correction of the first float is refused, as the day shows the first correction. -/
theorem float_corrected_once : Chained floatDay.table (floatDay.sheetOf .openingFloat) ∧
    (current floatDay.table floatDay.shown .openingFloat).map (·.countedVnd) = some 550000 ∧
    record floatDay.table stillDrawer (floatCommand 4 (some 2) 500000) =
      .error (.refused .stale) := by
  obtain ⟨hchained, hdays⟩ := cash_sheet_is_one_chain
  obtain ⟨hshown, -, hrecords⟩ := hdays floatDay .openingFloat
  refine ⟨hchained _ floatDay.recorded _, ?_, ?_⟩
  · rw [hshown]
    rfl
  · refine (hrecords stillDrawer (floatCommand 4 (some 2) 500000) ⟨rfl, rfl, rfl⟩).2 ?_ ?_
    · exact ⟨rfl, by decide, _, rfl⟩
    · decide

def closingCommand : RecordCashCountCommand :=
  { floatCommand 4 none 750000 with kind := .closingCount }

def paidDrawer : DrawerMovement := { stillDrawer with cashInVnd := 200000, cashInEntries := 1 }

lemma record_closing : ∃ row closing,
    record floatTable paidDrawer closingCommand = .ok (floatTable ++ [row]) ∧
      row.closing = some closing ∧ closing.differenceVnd = some 0 :=
  ⟨_, _, rfl, rfl, rfl⟩

/-- The count agrees with the corrected float and the payment, and is recomputed from its trace. -/
theorem paid_day_replays : ∃ count : ClosingCount, count.table.take 2 = floatTable ∧
    count.closing.differenceVnd = some 0 ∧ ∃ opening movement, Explained count opening movement ∧
      replayTrace count.closing.trace =
        .ok ⟨.obj (members opening movement count.entry.businessDay count.entry.countedVnd),
          count.closing.traceHash⟩ := by
  obtain ⟨row, closing, hrecord, hcloses, heven⟩ := record_closing
  let count : ClosingCount :=
    { table := floatTable ++ [row]
      recorded := .record paidDrawer closingCommand recorded_floatTable hrecord
      entry := row
      kept := List.mem_append_right _ (List.mem_singleton_self row)
      closing := closing
      closes := hcloses }
  obtain ⟨opening, movement, hexplained, hreplays, -⟩ := closing_count_replays count
  exact ⟨count, rfl, heven, opening, movement, hexplained, hreplays⟩

end Counted

end NhaTrangLaundry.Db.CashCounts
