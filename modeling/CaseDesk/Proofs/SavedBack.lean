/-
  Saving back what was read.

  An update that sets all fields of a record to what they are succeeds, and
  changes nothing but the stamp of the last change and the version.  The checks
  leave a stored record as it is; a condition of an agreement may hold what it
  holds; a condition of a status keeps its flag; and a priority keeps the name
  by which it is referred to.

  * `SlaConditions.prepare_held`: a condition asks for what it holds.
  * `ServiceName.settled_touched`: nothing follows from such an update.
  * `ServiceName.revision_asInput`: the rules let it through.
  * `Reachable.saved_back`: what it does.
-/
import CaseDesk.Proofs.Masks

namespace CaseDesk

/-! ## Priorities of a condition -/

namespace SlaConditions

/-- References with distinct ids stay as they are. -/
theorem distinctIds_of_nodup {rs : List Lookup} (h : (rs.map (·.id)).Nodup) :
    ∀ {seen : List Int}, (∀ r ∈ rs, r.id ∉ seen) → distinctIds seen rs = rs := by
  induction rs with
  | nil => exact fun _ => rfl
  | cons r rest ih =>
    intro seen hseen
    obtain ⟨hfirst, hrest⟩ := List.nodup_cons.1 h
    have hnew : ¬ seen.contains r.id = true := by
      simpa using hseen r List.mem_cons_self
    rw [distinctIds, if_neg hnew, ih hrest]
    intro p hp hmem
    rcases List.mem_cons.1 hmem with he | hmem
    · exact hfirst (List.mem_map.2 ⟨p, hp, he⟩)
    · exact hseen p (List.mem_cons_of_mem _ hp) hmem

/-- References to priorities under their current names are resolved to themselves. -/
theorem mapM_resolve_of_named {t : Table Priority} (hk : t.Keyed) {rs : List Lookup}
    (h : ∀ r ∈ rs, names t r.id = some r.name) : rs.mapM (resolve t ·.id) = .ok rs := by
  induction rs with
  | nil => rfl
  | cons r rest ih =>
    obtain ⟨row, hrow, hname⟩ := Table.view_eq_some.1 (h r List.mem_cons_self)
    have hid : row.value.id = r.id := hk r.id row hrow
    have hfirst : resolve t r.id = .ok r := by
      rw [resolve, hrow]
      simp only [hid, hname]
    have hrest := ih fun p hp => h p (List.mem_cons_of_mem _ hp)
    rw [List.mapM_cons]
    exact bind_eq_ok.2 ⟨r, hfirst, bind_eq_ok.2 ⟨rest, hrest, rfl⟩⟩

/-- There is no conflict where the other conditions hold nothing that is asked for. -/
theorem conflict?_of_free {own : Int} {asked : List Lookup} {rows : List (Row SlaCondition)}
    (h : ∀ row ∈ rows, row.value.id ≠ own → ∀ p ∈ asked, ∀ q ∈ row.value.priorities,
      p.id ≠ q.id) : conflict? own asked rows = none := by
  induction rows with
  | nil => rfl
  | cons row rest ih =>
    have hrest := ih fun other hother => h other (List.mem_cons_of_mem _ hother)
    rw [conflict?]
    split_ifs with hown
    · exact hrest
    · have hfree : taken? asked row.value = none := by
        refine List.find?_eq_none.2 fun q hq hasked => ?_
        obtain ⟨p, hp, he⟩ := List.any_eq_true.1 hasked
        exact h row List.mem_cons_self hown p hp q hq (by simpa using he)
      rw [hfree]
      exact hrest

/-- A condition may ask for the priorities that it holds. -/
theorem prepare_held {s : Tables} (hk : s.Keyed)
    (hvalid : (holdings s.slaConditions).Valid (names s.priorities)) {id : Int}
    {row : Row SlaCondition} (hrow : s.slaConditions.row? id = some row) :
    prepare s row.value.slaId id .full (ServiceName.slaConditions.asInput row.value) =
      .ok (ServiceName.slaConditions.asInput row.value) := by
  have hown := holdings_eq_some.2 ⟨row, hrow, rfl, rfl⟩
  have hdistinct : distinctIds [] row.value.priorities = row.value.priorities :=
    distinctIds_of_nodup (hvalid.nodup hown) fun _ _ => List.not_mem_nil
  have hresolved : row.value.priorities.mapM (resolve s.priorities ·.id) =
      .ok row.value.priorities := mapM_resolve_of_named hk.priorities (hvalid.named hown)
  have hfree : conflict? id row.value.priorities (s.slaConditions.scopeRows row.value.slaId) =
      none := by
    refine conflict?_of_free fun other hother hne p hp q hq he => hne ?_
    obtain ⟨⟨i, hi⟩, hsla⟩ := Table.mem_scopeRows.1 hother
    have hsibling := holdings_eq_some.2 ⟨other, hi, inScope_iff.1 hsla, rfl⟩
    have hid : other.value.id = i := hk.slaConditions i other hi
    exact hid.trans (hvalid.apart hown hsibling hp hq he).symm
  rw [prepare, if_pos (Require.selects_full _)]
  refine bind_eq_ok.2 ⟨row.value.priorities, ?_, ?_⟩
  · change (distinctIds [] row.value.priorities).mapM (resolve s.priorities ·.id) = _
    rw [hdistinct]
    exact hresolved
  · rw [hfree]
    rfl

end SlaConditions

/-! ## Consequences -/

/-- A bulk change that changes no row. -/
theorem Table.modifyAll_eq_self {ρ : Type} {t : Table ρ} {change : ρ → Bool × ρ}
    (h : ∀ id row, t.row? id = some row → changeRow change row = row) :
    (t.modifyAll change).2 = t := by
  have hslot : ∀ slot ∈ t.slots, slot.map (changeRow change) = slot := by
    rintro (_ | row) hslot
    · rfl
    · obtain ⟨id, hrow⟩ := mem_rows.1 (List.mem_filterMap.2 ⟨some row, hslot, rfl⟩)
      exact congrArg some (h id row hrow)
  exact congrArg Table.mk ((List.map_congr_left hslot).trans (List.map_id' _))

/-- A row after a change that does no more than to stamp it. -/
def Row.touched {ρ : Type} [Record ρ] (who : Lookup) (time : Int) (row : Row ρ) : Row ρ :=
  { ver := row.ver + 1, value := Record.touchUpdated who time row.value }

/-- A condition that stays initial, or does not become so, takes the flag from no other. -/
theorem StatusConditions.settled_touched (row : Row StatusCondition) (who : Lookup) (time : Int)
    (s : Tables) : settled (some row) (row.touched who time) s = s := by
  unfold settled
  rw [if_neg]
  · rfl
  · exact fun hbecomes => hbecomes.2 hbecomes.1

/-- A priority that keeps its name is referred to by that name already. -/
theorem Priorities.settled_touched {s : Tables} (hk : s.Keyed)
    (hvalid : (SlaConditions.holdings s.slaConditions).Valid (SlaConditions.names s.priorities))
    {id : Int} {row : Row Priority} (hrow : s.priorities.row? id = some row) (who : Lookup)
    (time : Int) (t : Table Priority) :
    settled (some row) (row.touched who time) (Shelf.priorities.set t s) =
      Shelf.priorities.set t s := by
  have hid : row.value.id = id := hk.priorities id row hrow
  have hsame : (s.slaConditions.modifyAll (rename row.value.id row.value.name)).2 =
      s.slaConditions := by
    refine Table.modifyAll_eq_self fun i condition hcondition => ?_
    rw [changeRow_rename, Row.renamed, if_neg]
    rintro ⟨p, hp, hpid, hname⟩
    have hnamed := hvalid.named (SlaConditions.holdings_eq_some.2 ⟨condition, hcondition, rfl, rfl⟩)
      p hp
    rw [hpid, hid] at hnamed
    exact hname (Option.some.inj (hnamed.symm.trans (Table.view_of_row? hrow)))
  exact congrArg (Shelf.slaConditions.set · (Shelf.priorities.set t s)) hsame

namespace ServiceName

variable {service : ServiceName} {ctx : Context} {s : Tables}

/-- Nothing follows where a record is no more than stamped. -/
theorem settled_touched (hk : s.Keyed)
    (hvalid : (SlaConditions.holdings s.slaConditions).Valid (SlaConditions.names s.priorities))
    {id : Int} {row : Row service.Kept} (hrow : (service.shelf.get s).row? id = some row)
    (who : Lookup) (time : Int) (t : Table service.Kept) :
    service.desk.settled (some row) (row.touched who time) (service.shelf.set t s) =
      service.shelf.set t s := by
  cases service with
  | priorities => exact Priorities.settled_touched hk hvalid hrow who time t
  | statusConditions => exact StatusConditions.settled_touched row who time _
  | slas | slaConditions | closeReasons | reasons | sources | statuses | caseComments
  | caseLinks => rfl

/-! ## The update -/

/-- The version at which a key names a record, where it tells one. -/
def keyVer? : (service : ServiceName) → service.Key → Option Int
  | caseComments => fun tag => (Etag.parse .comment tag).toOption.bind (·.ver)
  | caseLinks => fun key => (Etag.parse .link key.linkTag).toOption.bind (·.ver)
  | _ => fun _ => none

/-- The rules let a record be set to what it is. -/
theorem revision_asInput (hs : s.Rooted) (hk : s.Keyed) (ht : s.Tidy)
    (hvalid : (SlaConditions.holdings s.slaConditions).Valid (SlaConditions.names s.priorities))
    (hservice : service ≠ .caseComments) {id : Int} {row : Row service.Kept}
    (hrow : (service.shelf.get s).row? id = some row) {key : service.Key}
    (hkey : service.Leads key row.value)
    (hver : ∀ ver, service.keyVer? key = some ver → ver = row.ver) :
    ∃ k revise, service.desk.revision s key (some (service.asInput row.value)) .full =
        .ok (k, revise) ∧ k.id = id ∧ (service.desk.shelf.get s).find k = .ok row ∧
      ∀ caller, revise caller row.value = .ok row.value := by
  obtain ⟨hnamed, hplace⟩ := hkey
  have hplace := hplace hservice
  have htidy := ht service id row hrow
  rw [hk.shelf service id row hrow] at hnamed
  cases service with
  | slas =>
    cases hnamed
    exact ⟨_, _, rfl, rfl, Table.find_of_row? hrow nofun, fun _ => Slas.revise_asInput htidy⟩
  | closeReasons =>
    cases hnamed
    exact ⟨_, _, rfl, rfl, Table.find_of_row? hrow nofun,
      fun _ => CloseReasons.revise_asInput htidy⟩
  | sources =>
    cases hnamed
    exact ⟨_, _, rfl, rfl, Table.find_of_row? hrow nofun, fun _ => Sources.revise_asInput htidy⟩
  | statuses =>
    cases hnamed
    exact ⟨_, _, rfl, rfl, Table.find_of_row? hrow nofun, fun _ => Statuses.revise_asInput htidy⟩
  | priorities =>
    cases hnamed
    exact ⟨_, _, rfl, rfl, Table.find_of_row? hrow nofun,
      fun _ => Priorities.revise_asInput htidy⟩
  | slaConditions =>
    cases hnamed
    have hparent := Parent.require_of_row? ⟨"sla_id", .slas⟩ hs.slaConditions hrow hplace
    have hprepare := SlaConditions.prepare_held hk hvalid hrow
    rw [← Option.some.inj hplace] at hprepare
    exact ⟨_, _, bind_eq_ok.2 ⟨_, rfl, bind_eq_ok.2 ⟨_, hparent, bind_eq_ok.2 ⟨_, hprepare, rfl⟩⟩⟩,
      rfl, Table.find_of_row? hrow fun _ h => hplace.symm.trans h,
      fun _ => SlaConditions.revise_asInput htidy⟩
  | reasons =>
    cases hnamed
    have hparent := Parent.require_of_row? ⟨"close_reason_id", .closeReasons⟩ hs.reasons hrow hplace
    exact ⟨_, _, bind_eq_ok.2 ⟨_, rfl, bind_eq_ok.2 ⟨_, hparent, bind_eq_ok.2 ⟨_, rfl, rfl⟩⟩⟩,
      rfl, Table.find_of_row? hrow fun _ h => hplace.symm.trans h,
      fun _ => Reasons.revise_asInput htidy⟩
  | statusConditions =>
    cases hnamed
    have hparent := Parent.require_of_row? StatusConditions.parent hs.statusConditions hrow hplace
    exact ⟨_, _, bind_eq_ok.2 ⟨_, rfl, bind_eq_ok.2 ⟨_, hparent, rfl⟩⟩,
      rfl, Table.find_of_row? hrow fun _ h => hplace.symm.trans h,
      fun _ => StatusConditions.revise_asInput htidy _⟩
  | caseComments => exact absurd rfl hservice
  | caseLinks =>
    have hnamed : Etag.id? .link key.linkTag = some id := hnamed
    have hplace : Etag.id? .wholeCase key.caseTag = Record.scope row.value := hplace
    obtain ⟨tag, htag, rfl⟩ := Etag.id?_eq_some.1 hnamed
    obtain ⟨caseTag, hcaseTag, hcase⟩ := Etag.id?_eq_some.1 hplace
    have hcheck : Table.check { id := tag.id, scope := some caseTag.id, ver := tag.ver } row =
        .ok () := by
      refine Table.check_eq_ok.2 ⟨fun scope hscope => Table.inScope_iff.2 ?_, fun ver htold => ?_⟩
      · exact hplace.symm.trans ((Etag.id?_of_parse hcaseTag).trans hscope)
      · refine hver ver ?_
        change (Etag.parse .link key.linkTag).toOption.bind (·.ver) = some ver
        rw [htag]
        exact htold
    exact ⟨_, _, bind_eq_ok.2 ⟨_, CaseLinks.rowKey_of_parse hcaseTag htag, rfl⟩, rfl,
      Table.find_eq_ok.2 ⟨hrow, hcheck⟩, fun _ => CaseLinks.revise_asInput htidy⟩

/-- A stamped record stands under the id that it has. -/
theorem edited_touched (hk : s.Keyed) {k : RowKey} {row : Row service.Kept}
    (hrow : (service.shelf.get s).row? k.id = some row) (who : Lookup) (time : Int) :
    Table.edited k row (Record.touchUpdated who time row.value) = row.touched who time :=
  edited_eq (hk.shelf service k.id row hrow) row who time

end ServiceName

/-- **Saving back what was read is harmless.**  An update of a stored record, other than a comment,
    that sets all its fields to what they are succeeds for every caller who may update it.  It sets
    the time and the user of the last change of that record and counts its version up; all other
    fields of the record stay as they are, and so does everything else in the tables. -/
theorem Reachable.saved_back {s : Tables} (h : Reachable s) {service : ServiceName}
    (hservice : service ≠ .caseComments) {id : Int} {row : Row service.Kept}
    (hrow : (service.shelf.get s).row? id = some row) {key : service.Key}
    (hkey : service.Leads key row.value)
    (hver : ∀ ver, service.keyVer? key = some ver → ver = row.ver) {ctx : Context}
    (hgrant : ctx.Holds .update service) :
    ∃ caller new, ctx.caller = some caller ∧
      (service.call (.update ⟨key, some (service.asInput row.value), []⟩)).run ctx s =
        (.ok (service.answer (.record (service.desk.present caller [] new))),
          service.shelf.modify (·.put id (some new)) s) ∧
      service.Stamped caller.user ctx.now row new ∧
      ∀ f ∈ (Record.schema (ρ := service.Kept)).fields, f.name ∉ ServiceName.updateStamps →
        f.lens.get new.value = f.lens.get row.value := by
  obtain ⟨caller, hcaller⟩ := (ServiceName.holds_iff .update).1 hgrant
  obtain ⟨k, revise, hrevision, rfl, hfind, hrevise⟩ := ServiceName.revision_asInput h.rooted
    h.keyed h.tidy h.validHoldings hservice hrow hkey hver
  refine ⟨caller, row.touched caller.user ctx.now, (ServiceName.authorize_eq_ok.1 hcaller).1, ?_,
    ServiceName.stamped_touchUpdated rfl _ _,
    fun f hf hname => ServiceName.get_touchUpdated hf hname _ _ row.value⟩
  rw [ServiceName.run_update hcaller hrevision hfind (hrevise caller)
    (ServiceName.edited_touched h.keyed hrow _ _)]
  rw [ServiceName.shelf_desk, ServiceName.settled_touched h.keyed h.validHoldings hrow]
  rfl

/-- The condition of `renamedPriority` that holds a priority, which has another name by now. -/
theorem renamedPriority_saved_back :
    ∃ row new, (renamedPriority.before 5).slaConditions.row? 1 = some row ∧ row.ver = 2 ∧
      (ServiceName.call .slaConditions
        (.update ⟨⟨1, 1⟩, some (ServiceName.slaConditions.asInput row.value), []⟩)).run .superuser
          (renamedPriority.before 5) =
        (.ok (.slaConditions (.record new.value)),
          Shelf.slaConditions.modify (·.put 1 (some new)) (renamedPriority.before 5)) ∧
      (new.ver : Int) = 3 ∧ new.value.priorities = row.value.priorities := by
  have hfirst : ((renamedPriority.before 5).slaConditions.row? 1).map
      (fun row => (row.value.id, row.value.slaId, row.ver)) = some (1, 1, 2) := by decide +kernel
  obtain ⟨row, hrow, hparts⟩ := Option.map_eq_some_iff.1 hfirst
  obtain ⟨hid, hsla, hver⟩ := by simpa using hparts
  have hleads : ServiceName.slaConditions.Leads ⟨1, 1⟩ row.value :=
    ⟨congrArg some hid.symm, fun _ => congrArg some hsla.symm⟩
  have hgrant : Context.superuser.Holds .update .slaConditions := ⟨_, rfl, by decide +kernel⟩
  obtain ⟨caller, new, hcaller, hrun, hstamped, hkept⟩ :=
    Reachable.saved_back (renamedPriority.reachable_before 5)
      (nofun : ServiceName.slaConditions ≠ .caseComments) hrow hleads nofun hgrant
  cases hcaller
  have hnumber := hstamped.number (by rw [hver]; decide)
  rw [hver] at hnumber
  have hheld : new.value.priorities = row.value.priorities :=
    hkept _ (.tail _ (.tail _ (.head _))) (by decide)
  exact ⟨row, new, hrow, hver, hrun, hnumber, hheld⟩

/-- Without a limit for the versions a record that is saved back may get a lower one. -/
theorem wornCondition_saved_back :
    let s := wornCondition.before wornCondition.length
    ∃ row new, s.statusConditions.row? 1 = some row ∧
      ((ServiceName.call .statusConditions
        (.update ⟨⟨1, 1⟩, some (ServiceName.statusConditions.asInput row.value), []⟩)).run .superuser
          s).2.statusConditions.row? 1 = some new ∧
      (new.ver : Int) ≠ row.ver + 1 := by
  rw [wornCondition_last]
  exact ⟨_, _, rfl, rfl, by decide⟩

end CaseDesk
