import Mathlib.Data.List.Nodup
import Pagewright.Proofs.Addressing

/-!
# Sessions on a document

A session is a list of calls that add, remove and look up pages. Whatever the calls are, and
however many of them fail, the ids of the pages stay apart (`nodup_ids_run`): a page is added with
an id that is not in use, and a removal only takes a page away. All else rests on this. A look-up by
id then meets the one page of the id, so the page that a removal finds is the page that it takes
out, and an id is found exactly as long as a page was added with it and not removed since
(`mem_ids_run`).
-/

namespace Pagewright

namespace Document

/-- The ids of the pages in order. -/
def ids (document : Document) : List String := document.pages.map Page.id

/-- The page that is added under an id. -/
def newPage (id : String) (title route : Value) : Page := { id, settings := { title, route } }

/-- A call on a document. The id of a new page is the one that was made up for it. -/
inductive Call where
  | add (id : String) (title route : Value)
  | remove (id : String)
  | get (id : String)

/-- The page that a call adds, if it adds one. -/
def Call.added : Call → List Page
  | .add id title route => [newPage id title route]
  | _ => []

/-- What a call answers, and the document that it leaves. -/
def call (document : Document) : Call → Except DocumentFault Page × Document
  | .add id title route => (.ok (newPage id title route), document.addPage id title route)
  | .remove id => match document.removePage id with
    | .ok (page, after) => (.ok page, after)
    | .error fault => (.error fault, document)
  | .get id => (document.page id, document)

/-- The document that a session leaves. -/
def run (document : Document) (calls : List Call) : Document :=
  calls.foldl (fun current call => (current.call call).2) document

/-- Does a session add pages only under ids that are not in use? -/
def AddsNew : Document → List Call → Prop
  | _, [] => True
  | document, call :: rest =>
    (∀ page ∈ call.added, page.id ∉ document.ids) ∧ AddsNew (document.call call).2 rest

instance AddsNew.decidable :
    (document : Document) → (calls : List Call) → Decidable (document.AddsNew calls)
  | _, [] => inferInstanceAs (Decidable True)
  | document, call :: rest =>
    have := AddsNew.decidable (document.call call).2 rest
    inferInstanceAs (Decidable (_ ∧ _))

/-- Does no call of a session remove the page of an id? -/
def Spares (document : Document) (id : String) (calls : List Call) : Prop :=
  ∀ before behind, calls = before ++ .remove id :: behind →
    ∀ page, ((document.run before).call (.remove id)).1 ≠ .ok page

/-- Does a session add a page under an id and not remove it later on? -/
def AddedLast (document : Document) (id : String) (calls : List Call) : Prop :=
  ∃ before title route behind, calls = before ++ .add id title route :: behind ∧
    (document.run (before ++ [.add id title route])).Spares id behind

/-- Was the page of an id there at the start of a session or added, and not removed since? -/
def Holds (document : Document) (id : String) (calls : List Call) : Prop :=
  (id ∈ document.ids ∧ document.Spares id calls) ∨ document.AddedLast id calls

/-- What calls do to a document whose pages have different ids. -/
structure Orderly (document : Document) : Prop where
  remains : document.pages ≠ []
  distinct : document.ids.Nodup
  /-- A new page is empty and comes last; the others stay. -/
  add : ∀ id title route, ∃ page after,
    document.call (.add id title route) = (.ok page, after) ∧
      after.pages = document.pages ++ [page] ∧
      page.id = id ∧ page.settings.title = title ∧ page.settings.route = route ∧
      page.content = [] ∧ page.zones = []
  /-- A removal fails if there is no page of the id, or no other page. -/
  remove_fails : ∀ id, (∃ fault, (document.call (.remove id)).1 = .error fault) ↔
    id ∉ document.ids ∨ document.pages.length = 1
  /-- A removal that fails says why and changes nothing. -/
  remove_failed : ∀ id fault after, document.call (.remove id) = (.error fault, after) →
    after = document ∧
      fault = if id ∈ document.ids then .lastPage else .unknownPage id document.ids
  /-- Any other removal takes out the page of the id and nothing else. To search the page by what
  tells it from the others comes to the same. -/
  removed : ∀ id page after, document.call (.remove id) = (.ok page, after) →
    page.id = id ∧
      (∃ before behind, document.pages = before ++ page :: behind ∧
        after.pages = before ++ behind) ∧
      ∀ same : Page → Bool, (∀ other ∈ document.pages, same other = true ↔ other = page) →
        after.pages = document.pages.eraseP same
  /-- A look-up finds the page of the id, if there is one, and changes nothing. -/
  get : ∀ id, (document.call (.get id)).2 = document ∧
    ∀ page, (document.call (.get id)).1 = .ok page ↔ page ∈ document.pages ∧ page.id = id

variable {document : Document} {id : String}

/-! ## Single calls -/

theorem page_eq_ok_iff (h : document.ids.Nodup) {page : Page} :
    document.page id = .ok page ↔ page ∈ document.pages ∧ page.id = id := by
  constructor
  · intro hpage
    rw [Document.page] at hpage
    split at hpage
    · next found hfind =>
      rw [← Except.ok.inj hpage]
      exact ⟨List.mem_of_find?_eq_some hfind, by simpa using List.find?_some hfind⟩
    · cases hpage
  · rintro ⟨hmem, rfl⟩
    exact page_eq_ok h hmem

theorem page_eq_error (h : id ∉ document.ids) :
    document.page id = .error (.unknownPage id document.ids) := by
  have hfind : document.pages.find? (fun page => page.id == id) = none := by
    refine List.find?_eq_none.2 fun page hpage hid => h ?_
    exact List.mem_map.2 ⟨page, hpage, by simpa using hid⟩
  rw [Document.page, hfind]
  rfl

/-- The page in the middle is told from the others by anything that it has alone. -/
theorem eraseP_middle {before behind : List Page} {page : Page}
    (h : ((before ++ page :: behind).map Page.id).Nodup) {same : Page → Bool}
    (hsame : ∀ other ∈ before ++ page :: behind, same other = true ↔ other = page) :
    (before ++ page :: behind).eraseP same = before ++ behind := by
  -- the search passes over what stands in front, since that is told from the page by its id
  have hbefore : ∀ other ∈ before, ¬same other = true := by
    intro other hother hmark
    have heq := (hsame other (List.mem_append_left _ hother)).1 hmark
    rw [List.map_append, List.map_cons] at h
    exact (List.nodup_append.1 h).2.2 other.id (List.mem_map_of_mem hother) page.id
      (List.mem_cons_self ..) (congrArg Page.id heq)
  rw [List.eraseP_append_right _ hbefore, List.eraseP_cons_of_pos ((hsame page (by simp)).2 rfl)]

/-- The page of an id, with the pages around it. -/
theorem exists_pages_of_mem (h : document.ids.Nodup) (hid : id ∈ document.ids) :
    ∃ before page behind, document.pages = before ++ page :: behind ∧ page.id = id ∧
      document.page id = .ok page ∧ without id document.pages = before ++ behind := by
  obtain ⟨page, hpage, rfl⟩ := List.mem_map.1 hid
  obtain ⟨before, behind, hpages⟩ := List.append_of_mem hpage
  refine ⟨before, page, behind, hpages, rfl, page_eq_ok h hpage, ?_⟩
  have hsame : ∀ other ∈ document.pages, (other.id == page.id) = true ↔ other = page :=
    fun other hother => ⟨fun hbeq => List.inj_on_of_nodup_map h hother hpage (eq_of_beq hbeq),
      fun heq => by rw [heq, beq_self_eq_true]⟩
  rw [ids, hpages] at h
  rw [hpages] at hsame
  rw [without, hpages, eraseP_middle h hsame]

theorem removePage_of_notMem (h : id ∉ document.ids) :
    document.removePage id = .error (.unknownPage id document.ids) := by
  rw [removePage, page_eq_error h]
  rfl

/-- A removal of a page that is there fails if it is the last one, and takes it out otherwise. -/
theorem removePage_of_mem (h : document.ids.Nodup) (hid : id ∈ document.ids) :
    ∃ before page behind, document.pages = before ++ page :: behind ∧ page.id = id ∧
      ((before ++ behind = [] ∧ document.removePage id = .error .lastPage) ∨
        ∃ after, after.pages = before ++ behind ∧ document.removePage id = .ok (page, after)) := by
  obtain ⟨before, page, behind, hpages, hpageId, hfound, hrest⟩ := exists_pages_of_mem h hid
  refine ⟨before, page, behind, hpages, hpageId, ?_⟩
  unfold removePage
  rw [hfound, hrest]
  cases hothers : before ++ behind with
  | nil => exact Or.inl ⟨rfl, rfl⟩
  | cons first rest => exact Or.inr ⟨⟨first :: rest, List.cons_ne_nil first rest⟩, rfl, rfl⟩

theorem call_remove_of_ok {page : Page} {after : Document}
    (h : document.removePage id = .ok (page, after)) :
    document.call (.remove id) = (.ok page, after) := by
  simp only [call, h]

theorem call_remove_of_error {fault : DocumentFault} (h : document.removePage id = .error fault) :
    document.call (.remove id) = (.error fault, document) := by
  simp only [call, h]

/-- **What a removal does.** -/
theorem call_remove_cases (h : document.ids.Nodup) (id : String) :
    (id ∉ document.ids ∧
        document.call (.remove id) = (.error (.unknownPage id document.ids), document)) ∨
      ∃ before page behind, document.pages = before ++ page :: behind ∧ page.id = id ∧
        ((before ++ behind = [] ∧ document.call (.remove id) = (.error .lastPage, document)) ∨
          ∃ after, after.pages = before ++ behind ∧
            document.call (.remove id) = (.ok page, after)) := by
  by_cases hid : id ∈ document.ids
  · obtain ⟨before, page, behind, hpages, hpageId, hdone⟩ := removePage_of_mem h hid
    exact Or.inr ⟨before, page, behind, hpages, hpageId,
      hdone.imp (And.imp_right call_remove_of_error)
        fun ⟨after, hafter, hok⟩ => ⟨after, hafter, call_remove_of_ok hok⟩⟩
  · exact Or.inl ⟨hid, call_remove_of_error (removePage_of_notMem hid)⟩

/-- **Different ids are all that orderly calls need.** -/
theorem orderly_of_nodup (h : document.ids.Nodup) : document.Orderly where
  remains := document.nonempty
  distinct := h
  add := fun id title route => ⟨newPage id title route, document.addPage id title route, rfl, rfl,
    rfl, rfl, rfl, rfl, rfl⟩
  remove_fails := by
    intro id
    rcases call_remove_cases h id with ⟨hid, hcall⟩ | ⟨before, page, behind, hpages, hpageId, hdone⟩
    · exact iff_of_true ⟨_, congrArg Prod.fst hcall⟩ (Or.inl hid)
    · have hid : id ∈ document.ids := List.mem_map.2 ⟨page, by simp [hpages], hpageId⟩
      have hlength : document.pages.length = (before ++ behind).length + 1 := by
        rw [hpages]
        simp
        omega
      rcases hdone with ⟨hothers, hcall⟩ | ⟨after, hafter, hcall⟩
      · exact iff_of_true ⟨_, congrArg Prod.fst hcall⟩ (Or.inr (by rw [hlength, hothers]; rfl))
      · refine iff_of_false (fun ⟨fault, hfault⟩ => ?_) (not_or.2 ⟨fun hno => hno hid, ?_⟩)
        · rw [hcall] at hfault
          cases hfault
        · rw [hlength, ← hafter]
          have := List.length_pos_iff.2 after.nonempty
          omega
  remove_failed := by
    intro id fault after hfailed
    rcases call_remove_cases h id with ⟨hid, hcall⟩ | ⟨before, page, behind, hpages, hpageId, hdone⟩
    · rw [hcall] at hfailed
      cases hfailed
      exact ⟨rfl, (if_neg hid).symm⟩
    · have hid : id ∈ document.ids := List.mem_map.2 ⟨page, by simp [hpages], hpageId⟩
      rcases hdone with ⟨_, hcall⟩ | ⟨_, _, hcall⟩
      · rw [hcall] at hfailed
        cases hfailed
        exact ⟨rfl, (if_pos hid).symm⟩
      · rw [hcall] at hfailed
        cases hfailed
  removed := by
    intro id page after hremoved
    rcases call_remove_cases h id with ⟨_, hcall⟩ | ⟨before, found, behind, hpages, hpageId, hdone⟩
    · rw [hcall] at hremoved
      cases hremoved
    · rcases hdone with ⟨_, hcall⟩ | ⟨left, hleft, hcall⟩
      · rw [hcall] at hremoved
        cases hremoved
      · rw [hcall] at hremoved
        cases hremoved
        refine ⟨hpageId, ⟨before, behind, hpages, hleft⟩, fun same hsame => ?_⟩
        rw [ids, hpages] at h
        rw [hpages] at hsame
        rw [hpages, hleft, eraseP_middle h hsame]
  get := fun id => ⟨rfl, fun page => page_eq_ok_iff h⟩

/-! ## Whole sessions -/

/-- A call leaves pages that were there, in their order, and behind them the one that it adds. -/
theorem pages_call_sublist (h : document.ids.Nodup) (call : Call) :
    (document.call call).2.pages.Sublist (document.pages ++ call.added) := by
  cases call with
  | add id title route => exact List.Sublist.refl _
  | get id => exact List.sublist_append_left _ _
  | remove id =>
    refine List.Sublist.trans ?_ (List.sublist_append_left _ _)
    rcases call_remove_cases h id with ⟨_, hcall⟩ | ⟨before, page, behind, hpages, _, hdone⟩
    · rw [hcall]
    · rcases hdone with ⟨_, hcall⟩ | ⟨after, hafter, hcall⟩
      · rw [hcall]
      · rw [hcall, hafter, hpages]
        exact (List.sublist_cons_self page behind).append_left before

/-- **A call keeps the ids apart**, if it adds no page under an id that is in use. -/
theorem nodup_ids_call (h : document.ids.Nodup) {call : Call}
    (hnew : ∀ page ∈ call.added, page.id ∉ document.ids) : (document.call call).2.ids.Nodup := by
  refine ((pages_call_sublist h call).map Page.id).nodup ?_
  rw [List.map_append]
  refine List.nodup_append.2 ⟨h, ?_, ?_⟩
  · cases call with
    | add id title route => exact List.nodup_singleton _
    | remove id => exact List.nodup_nil
    | get id => exact List.nodup_nil
  · intro old hold new hnewId heq
    obtain ⟨page, hpage, rfl⟩ := List.mem_map.1 hnewId
    exact hnew page hpage (heq ▸ hold)

/-- A session that stops early adds pages under new ids as well. -/
theorem AddsNew.take {before behind : List Call} (h : document.AddsNew (before ++ behind)) :
    document.AddsNew before := by
  induction before generalizing document with
  | nil => trivial
  | cons call rest ih => exact ⟨h.1, ih h.2⟩

/-- **Ids stay apart along a session.** -/
theorem nodup_ids_run {calls : List Call} (h : document.ids.Nodup) (hnew : document.AddsNew calls) :
    (document.run calls).ids.Nodup := by
  induction calls generalizing document with
  | nil => exact h
  | cons call rest ih => exact ih (nodup_ids_call h hnew.1) hnew.2

/-- A session leaves pages that were there, and behind them some that it added, all in their
order. -/
theorem pages_run_sublist {calls : List Call} (h : document.ids.Nodup)
    (hnew : document.AddsNew calls) :
    (document.run calls).pages.Sublist (document.pages ++ calls.flatMap Call.added) := by
  induction calls generalizing document with
  | nil => exact List.sublist_append_left _ _
  | cons call rest ih =>
    rw [List.flatMap_cons, ← List.append_assoc]
    exact (ih (nodup_ids_call h hnew.1) hnew.2).trans
      ((pages_call_sublist h call).append_right _)

/-! ## Which ids are held -/

/-- Does a call take out the page of an id? -/
def Removes (document : Document) (id : String) (call : Call) : Prop :=
  call = .remove id ∧ ∃ page, (document.call call).1 = .ok page

theorem spares_cons {call : Call} {rest : List Call} :
    document.Spares id (call :: rest) ↔
      ¬document.Removes id call ∧ (document.call call).2.Spares id rest := by
  constructor
  · intro h
    refine ⟨?_, fun before behind hrest => h (call :: before) behind (by rw [hrest]; rfl)⟩
    rintro ⟨rfl, page, hpage⟩
    exact h [] rest rfl page hpage
  · rintro ⟨hfirst, hrest⟩ before behind hcalls page hpage
    cases before with
    | nil =>
      obtain ⟨rfl, rfl⟩ := List.cons.inj hcalls
      exact hfirst ⟨rfl, page, hpage⟩
    | cons first more =>
      obtain ⟨rfl, hmore⟩ := List.cons.inj hcalls
      exact hrest more behind hmore page hpage

theorem not_removes_of_error {call : Call} {fault : DocumentFault}
    (h : (document.call call).1 = .error fault) : ¬document.Removes id call := by
  rintro ⟨_, page, hpage⟩
  rw [h] at hpage
  cases hpage

/-- What a removal leaves is there under every id but the removed one. -/
theorem mem_ids_call_remove (h : document.ids.Nodup) {other : String} :
    id ∈ (document.call (.remove other)).2.ids ↔
      id ∈ document.ids ∧ ¬document.Removes id (.remove other) := by
  rcases call_remove_cases h other with ⟨_, hcall⟩ | ⟨before, page, behind, hpages, rfl, hdone⟩
  · rw [hcall]
    exact iff_self_and.2 fun _ => not_removes_of_error (congrArg Prod.fst hcall)
  · rcases hdone with ⟨_, hcall⟩ | ⟨after, hafter, hcall⟩
    · rw [hcall]
      exact iff_self_and.2 fun _ => not_removes_of_error (congrArg Prod.fst hcall)
    · have hremoves : document.Removes id (.remove page.id) ↔ page.id = id :=
        ⟨fun hr => Call.remove.inj hr.1, fun heq => ⟨congrArg _ heq, page, congrArg Prod.fst hcall⟩⟩
      have hids : document.ids = before.map Page.id ++ page.id :: behind.map Page.id := by
        rw [ids, hpages, List.map_append, List.map_cons]
      have hothers : page.id ∉ before.map Page.id ++ behind.map Page.id := by
        rw [hids, List.nodup_middle] at h
        exact (List.nodup_cons.1 h).1
      rw [hcall, hremoves, hids]
      show id ∈ after.pages.map Page.id ↔ _
      rw [hafter, List.map_append, List.perm_middle.mem_iff]
      constructor
      · exact fun hid => ⟨List.mem_cons_of_mem _ hid, fun heq => hothers (heq ▸ hid)⟩
      · exact fun ⟨hid, hne⟩ => (List.mem_cons.1 hid).resolve_left (Ne.symm hne)

/-- After a call, an id is there that the call adds, or that was there and is not removed. -/
theorem mem_ids_call (h : document.ids.Nodup) {call : Call} :
    id ∈ (document.call call).2.ids ↔
      (id ∈ document.ids ∧ ¬document.Removes id call) ∨ id ∈ call.added.map Page.id := by
  cases call with
  | add new title route =>
    have hadds : (document.call (.add new title route)).2.ids = document.ids ++ [new] :=
      List.map_append
    rw [hadds, List.mem_append, Call.added, List.map_singleton]
    exact or_congr_left (iff_self_and.2 fun _ hremoves => nomatch hremoves.1)
  | get other =>
    exact ⟨fun hid => Or.inl ⟨hid, fun hremoves => nomatch hremoves.1⟩,
      fun hid => (hid.resolve_right List.not_mem_nil).1⟩
  | remove other =>
    rw [mem_ids_call_remove h]
    exact (or_iff_left List.not_mem_nil).symm

theorem mem_added_iff {call : Call} :
    id ∈ call.added.map Page.id ↔ ∃ title route, call = .add id title route := by
  cases call with
  | add new title route =>
    refine List.mem_singleton.trans ⟨fun heq => ⟨title, route, heq ▸ rfl⟩, ?_⟩
    rintro ⟨_, _, heq⟩
    exact (Call.add.inj heq).1.symm
  | remove other => exact iff_of_false List.not_mem_nil nofun
  | get other => exact iff_of_false List.not_mem_nil nofun

theorem addedLast_cons {call : Call} {rest : List Call} :
    document.AddedLast id (call :: rest) ↔
      (id ∈ call.added.map Page.id ∧ (document.call call).2.Spares id rest) ∨
        (document.call call).2.AddedLast id rest := by
  rw [mem_added_iff]
  constructor
  · rintro ⟨before, title, route, behind, hcalls, hspares⟩
    cases before with
    | nil =>
      obtain ⟨rfl, rfl⟩ := List.cons.inj hcalls
      exact Or.inl ⟨⟨title, route, rfl⟩, hspares⟩
    | cons first more =>
      obtain ⟨rfl, hrest⟩ := List.cons.inj hcalls
      exact Or.inr ⟨more, title, route, behind, hrest, hspares⟩
  · rintro (⟨⟨title, route, rfl⟩, hspares⟩ | ⟨before, title, route, behind, rfl, hspares⟩)
    · exact ⟨[], title, route, rest, rfl, hspares⟩
    · exact ⟨call :: before, title, route, behind, rfl, hspares⟩

/-- The first call of a session shows in the document that the others meet. -/
theorem holds_cons (h : document.ids.Nodup) {call : Call} {rest : List Call} :
    document.Holds id (call :: rest) ↔ (document.call call).2.Holds id rest := by
  rw [Holds, Holds, addedLast_cons, spares_cons, mem_ids_call h, ← and_assoc, ← or_assoc,
    ← or_and_right]

/-- **An id is held as long as the session did not remove it.** -/
theorem mem_ids_run {calls : List Call} (h : document.ids.Nodup) (hnew : document.AddsNew calls) :
    id ∈ (document.run calls).ids ↔ document.Holds id calls := by
  induction calls generalizing document with
  | nil =>
    have hspares : document.Spares id [] := fun before behind hcalls => by
      simp at hcalls
    constructor
    · exact fun hid => Or.inl ⟨hid, hspares⟩
    · rintro (⟨hid, _⟩ | ⟨before, _, _, behind, hcalls, _⟩)
      · exact hid
      · simp at hcalls
  | cons call rest ih =>
    -- the ids that the first call leaves are the ones that the rest of the session starts with
    exact (ih (nodup_ids_call h hnew.1) hnew.2).trans (holds_cons h).symm

/-- **Sessions keep a document in order**, whatever they call, from every document whose pages have
different ids and with every choice of new ids.

At every point of a session there is a page, no two pages have one id, and calls do what is asked of
them and nothing else: a page is added behind the others, a removal takes out its page or fails and
changes nothing, and a look-up changes nothing. What is left of the pages keeps its order, and a
page is found under an id exactly if one was there at the start or added, and not removed since. -/
theorem session_orderly (document : Document) (h : document.ids.Nodup) (calls : List Call)
    (hnew : document.AddsNew calls) (sofar : List Call) (hsofar : sofar <+: calls) :
    (document.run sofar).Orderly ∧
      (document.run sofar).pages.Sublist (document.pages ++ sofar.flatMap Call.added) ∧
      ∀ id, (∃ page, ((document.run sofar).call (.get id)).1 = .ok page) ↔
        document.Holds id sofar := by
  obtain ⟨more, rfl⟩ := hsofar
  have hbefore := hnew.take
  have hrun := nodup_ids_run h hbefore
  refine ⟨orderly_of_nodup hrun, pages_run_sublist h hbefore, fun id => ?_⟩
  rw [← mem_ids_run h hbefore, ids, List.mem_map]
  exact exists_congr fun page => page_eq_ok_iff hrun

/-- A session that puts another page in place of the first one, and fails to remove that page
while it is the last. -/
def replacingCalls : List Call :=
  [.add "page-1" (.text "Pricing") (.text "/pricing"), .remove "home", .remove "home",
    .remove "page-1", .get "page-1", .add "home" (.text "New Page") (.text "/new-page"),
    .remove "page-1"]

theorem session_orderly_replacing :
    new.ids.Nodup ∧ new.AddsNew replacingCalls ∧
      (new.run replacingCalls).ids = ["home"] ∧ (new.run replacingCalls).Orderly ∧
      new.Holds "home" replacingCalls ∧ ¬new.Holds "page-1" replacingCalls := by
  obtain ⟨horderly, _, hholds⟩ := session_orderly new (by decide) replacingCalls (by decide)
    replacingCalls (List.prefix_refl _)
  have hids : (new.run replacingCalls).ids = ["home"] := by decide
  refine ⟨by decide, by decide, hids, horderly, (hholds "home").1 ?_, fun hold => ?_⟩
  · obtain ⟨page, hpage, hid⟩ := List.mem_map.1 (hids ▸ List.mem_singleton_self "home")
    exact ⟨page, ((horderly.get "home").2 page).2 ⟨hpage, hid⟩⟩
  · obtain ⟨page, hpage⟩ := (hholds "page-1").2 hold
    obtain ⟨hmem, hid⟩ := ((horderly.get "page-1").2 page).1 hpage
    have hnot : "page-1" ∉ (new.run replacingCalls).ids := by decide
    exact hnot (List.mem_map.2 ⟨page, hmem, hid⟩)

end Document

end Pagewright
