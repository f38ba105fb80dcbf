import Elapsed.Locale.Shared
import Elapsed.Proofs.Locale.Agreement

/-!
# The shared locale is a private registry

All parts of a process share one locale, and what they ask of it comes in some order.  This file
says that they are served as if one of them had a registry of its own and all requests were its own
(`Registry.serve`), but for the reports that a locale was selected.

*One request.*  `Shared.serve_eq`: the reply and the next state are those of the registry, and the
events too, but for one that tells which identifier was selected before (`Request.announcement`).

*A whole run.*  `Shared.transcript_eq`: the same of any requests in a row.  What the announcements
tell is known from the requests alone (`announcements`).  `Shared.transcript_agrees`: the two may
meet the maps of what they load in orders of their own (`inOrders`), and still agree.

*Copies.*  A snapshot is held by whoever asked for it, while others go on (`Session`).  No request
changes a copy that is there (`Session.copies_step`), so none ever does (`Session.prefix_run`).
-/

namespace Elapsed.Locale

/-! ## Requests -/

/-- What can be asked of a locale. -/
inductive Request where
  | select (id : String)
  | register (t : Table)
  | loadFile (decode : Decoder) (order : EntryOrder) (read : Reader) (path : String)
  | current
  | ids
  | selected
  | effective
  | format (seconds : UInt64) (template : String)
  | formatStrict (seconds : UInt64) (template : String)
  | snapshot

/-- What is given back for a request. -/
inductive Reply where
  | nothing
  | id (id : String)
  | ids (ids : List String)
  | count (result : Except Error Nat)
  | table (result : Except Error Table)
  | text (result : Except Error (Except WidthError String))
  | copy (r : Registry)

/-- What comes of a request: the reply, the events reported on the way to it, and the state that
the next request meets. -/
structure Response (σ : Type) where
  reply : Reply
  events : List Event
  state : σ

/-- A way to serve requests. -/
abbrev Server (σ : Type) := σ → Request → Response σ

namespace Server

variable {σ : Type} (serve : Server σ)

/-- The state after requests, one after the other. -/
def after (s : σ) (requests : List Request) : σ :=
  requests.foldl (fun s q => (serve s q).state) s

/-- The replies to requests, one after the other, each with its events. -/
def transcript (s : σ) : List Request → List (Reply × List Event)
  | [] => []
  | q :: rest => ((serve s q).reply, (serve s q).events) :: transcript (serve s q).state rest

theorem after_cons (s : σ) (q : Request) (rest : List Request) :
    serve.after s (q :: rest) = serve.after (serve s q).state rest := rfl

end Server

/-- How the shared locale serves requests. -/
def Shared.serve : Server Shared := fun s q =>
  match q with
  | .select id =>
    let done := s.select id
    ⟨.id done.value.current, done.events, done.value⟩
  | .register t => ⟨.nothing, [], s.register t⟩
  | .loadFile decode order read path =>
    let done := s.loadFile decode order read path
    ⟨.count done.result, done.events, ⟨done.registry⟩⟩
  | .current => ⟨.id s.current, [], s⟩
  | .ids => ⟨.ids s.ids, [], s⟩
  | .selected => ⟨.table s.selected, [], s⟩
  | .effective => ⟨.table (.ok s.effective.value), s.effective.events, s⟩
  | .format seconds template =>
    let shown := s.format seconds template
    ⟨.text (.ok shown.value), shown.events, s⟩
  | .formatStrict seconds template =>
    match s.formatStrict seconds template with
    | .error e => ⟨.text (.error e), [], s⟩
    | .ok shown => ⟨.text (.ok shown.value), shown.events, s⟩
  | .snapshot => ⟨.copy s.snapshot, [], s⟩

/-- How a registry of one's own serves requests.  To show a duration is to look up a table and to
format with it as the language. -/
def Registry.serve : Server Registry := fun r q =>
  match q with
  | .select id => ⟨.id (r.select id).current, [], r.select id⟩
  | .register t => ⟨.nothing, [], (r.register t).1⟩
  | .loadFile decode order read path =>
    let done := r.loadFile decode order read path
    ⟨.count done.result, done.events, done.registry⟩
  | .current => ⟨.id r.current, [], r⟩
  | .ids => ⟨.ids r.ids, [], r⟩
  | .selected => ⟨.table r.selected, [], r⟩
  | .effective => ⟨.table (.ok r.effective.value), r.effective.events, r⟩
  | .format seconds template =>
    ⟨.text (.ok (r.effective.value.localizer.format seconds template)),
      r.effective.events ++ Template.diagnostics template, r⟩
  | .formatStrict seconds template =>
    match r.selected with
    | .error e => ⟨.text (.error e), [], r⟩
    | .ok t =>
      ⟨.text (.ok (t.localizer.format seconds template)), Template.diagnostics template, r⟩
  | .snapshot => ⟨.copy r, [], r⟩

namespace Request

/-- What is done to the registry by a request that changes it. -/
def operation? : Request → Option Operation
  | select id => some (.select id)
  | register t => some (.register t)
  | loadFile decode order read path => some (.loadFile decode order read path)
  | _ => none

/-- The identifier that a request selects. -/
def selected? : Request → Option String
  | select id => some id
  | _ => none

/-- What the shared locale reports of a request before it, when an identifier is selected already:
a selection, from the one identifier to the other. -/
def announcement (current : String) (q : Request) : List Event :=
  q.selected?.elim [] fun id => [.localeChanged current id]

/-- Whether a request asks for a copy. -/
def isSnapshot : Request → Bool
  | snapshot => true
  | _ => false

/-- Whether a request loads what is decoded to a catalogue. -/
def Decodes : Request → Catalogue → Prop
  | loadFile decode _ read path, c => decode.DecodesFile read path c
  | _, _ => False

/-- The same request with the maps it meets in another order. -/
def inOrder (order : EntryOrder) : Request → Request
  | loadFile decode _ read path => loadFile decode order read path
  | q => q

end Request

/-- The same requests, each with its maps in an order of its own. -/
def inOrders (orders : Nat → EntryOrder) (requests : List Request) : List Request :=
  requests.mapIdx fun i q => q.inOrder (orders i)

/-- Whether two replies agree: they are the same, or the results of loads that agree. -/
inductive RepliesAgree (Decodes : Catalogue → Prop) : Reply → Reply → Prop where
  | same (reply : Reply) : RepliesAgree Decodes reply reply
  | count {x y : Except Error Nat} (h : ResultsAgree Decodes x y) :
      RepliesAgree Decodes (.count x) (.count y)

/-- Whether two answers to a request, each a reply with its events, agree: in their replies up to
the order of the maps, and in their events. -/
structure Request.AnswersAgree (q : Request) (x y : Reply × List Event) : Prop where
  reply : RepliesAgree q.Decodes x.1 y.1
  events : x.2 = y.2

/-- What the shared locale reports of the selections among requests, when an identifier is selected
in the beginning. -/
def announcements (current : String) : List Request → List (List Event)
  | [] => []
  | q :: rest => q.announcement current :: announcements (q.selected?.getD current) rest

theorem exists_of_mem_announcements {e : Event} {requests : List Request} :
    ∀ {current : String}, e ∈ (announcements current requests).flatten →
      ∃ old new, e = .localeChanged old new := by
  induction requests with
  | nil => exact fun h => absurd h List.not_mem_nil
  | cons q rest ih =>
      intro current h
      rw [announcements, List.flatten_cons, List.mem_append, Request.announcement] at h
      rcases h with h | h
      · cases hq : q.selected? with
        | none =>
            rw [hq] at h
            exact absurd h List.not_mem_nil
        | some id =>
            rw [hq] at h
            exact ⟨current, id, List.mem_singleton.1 h⟩
      · exact ih h

/-! ## One request -/

theorem Registry.state_serve (r : Registry) (q : Request) :
    (r.serve q).state = q.operation?.elim r (Operation.apply r) := by
  cases q with
  | formatStrict seconds template =>
      rw [serve]
      cases r.selected with
      | error e => rfl
      | ok t => rfl
  | _ => rfl

theorem Registry.current_serve (r : Registry) (q : Request) :
    (r.serve q).state.current = q.selected?.getD r.current := by
  rw [state_serve]
  cases q with
  | register t => exact current_register r t
  | loadFile decode order read path =>
      exact Operation.current_apply r (.loadFile decode order read path)
  | _ => rfl

/-- What a registry answers when the maps come in another order, and what is left of it. -/
theorem Registry.agrees_serve (r : Registry) (q : Request) (order : EntryOrder) :
    q.AnswersAgree ((r.serve q).reply, (r.serve q).events)
        ((r.serve (q.inOrder order)).reply, (r.serve (q.inOrder order)).events) ∧
      (r.serve (q.inOrder order)).state = (r.serve q).state := by
  cases q with
  | loadFile decode order' read path =>
      have h := r.agrees_loadFile decode order' order read path
      exact ⟨⟨.count h.result, h.events⟩, h.registry.symm⟩
  | _ => exact ⟨⟨.same _, rfl⟩, rfl⟩

/-- To show a duration strictly is to format with the selected table, if there is one. -/
theorem Registry.reply_formatStrict (r : Registry) (seconds : UInt64) (template : String) :
    (r.serve (.formatStrict seconds template)).reply
      = .text (r.selected.map fun t => t.localizer.format seconds template) := by
  rw [serve]
  cases r.selected with
  | error e => rfl
  | ok t => rfl

/-- A request to the shared locale is served like one to its registry, and a selection is
announced. -/
theorem Shared.serve_eq (s : Shared) (q : Request) :
    s.serve q = ⟨(s.registry.serve q).reply,
      (s.registry.serve q).events ++ q.announcement s.registry.current,
      ⟨(s.registry.serve q).state⟩⟩ := by
  cases q with
  | select id => rfl
  | formatStrict seconds template =>
      show _ = Response.mk _ (_ ++ []) _
      rw [List.append_nil, serve, formatStrict, Registry.formatStrict, Registry.serve]
      cases s.registry.selected with
      | error e => rfl
      | ok t => rfl
  | _ =>
      show _ = Response.mk _ (_ ++ []) _
      rw [List.append_nil]
      rfl

/-- Without a selection there is nothing to announce. -/
theorem Shared.serve_of_not_select (s : Shared) {q : Request} (h : q.selected? = none) :
    s.serve q = ⟨(s.registry.serve q).reply, (s.registry.serve q).events,
      ⟨(s.registry.serve q).state⟩⟩ := by
  have hquiet : q.announcement s.registry.current = [] := by
    rw [Request.announcement, h]
    rfl
  rw [serve_eq, hquiet, List.append_nil]

/-! ## A whole run -/

/-- A registry that serves requests is changed by the operations among them and by nothing else. -/
theorem Registry.after_eq_run (requests : List Request) :
    ∀ r : Registry, Registry.serve.after r requests
      = r.run (requests.filterMap Request.operation?) := by
  induction requests with
  | nil => exact fun r => rfl
  | cons q rest ih =>
      intro r
      rw [Server.after_cons, ih, state_serve]
      cases hq : q.operation? with
      | none => rw [List.filterMap_cons_none hq]; rfl
      | some op => rw [List.filterMap_cons_some hq]; rfl

namespace Shared

theorem registry_after (requests : List Request) :
    ∀ s : Shared, (Shared.serve.after s requests).registry
      = Registry.serve.after s.registry requests := by
  induction requests with
  | nil => exact fun s => rfl
  | cons q rest ih =>
      intro s
      rw [Server.after_cons, Server.after_cons, ih, serve_eq]

/-- Requests to the shared locale are answered like those to its registry, and the selections among
them are announced. -/
theorem transcript_eq (requests : List Request) :
    ∀ s : Shared, Shared.serve.transcript s requests
      = List.zipWith (fun answer more => (answer.1, answer.2 ++ more))
          (Registry.serve.transcript s.registry requests)
          (announcements s.registry.current requests) := by
  induction requests with
  | nil => exact fun s => rfl
  | cons q rest ih =>
      intro s
      rw [Server.transcript, Server.transcript, announcements, List.zipWith_cons_cons, ih,
        serve_eq, Registry.current_serve]

/-- The same of a registry whose maps come in orders of its own: but for these, the replies are
those of the shared locale. -/
theorem transcript_agrees (requests : List Request) : ∀ (s : Shared) (orders : Nat → EntryOrder),
    List.Forall₂ (fun call answer => call.1.AnswersAgree call.2 answer)
      (requests.zip (Shared.serve.transcript s requests))
      (List.zipWith (fun answer more => (answer.1, answer.2 ++ more))
        (Registry.serve.transcript s.registry (inOrders orders requests))
        (announcements s.registry.current requests)) := by
  induction requests with
  | nil => exact fun s orders => .nil
  | cons q rest ih =>
      intro s orders
      obtain ⟨hanswer, hstate⟩ := s.registry.agrees_serve q (orders 0)
      have hrest := ih (s.serve q).state fun i => orders (i + 1)
      rw [inOrders, List.mapIdx_cons, Server.transcript, Server.transcript, announcements,
        List.zip_cons_cons, List.zipWith_cons_cons, hstate]
      rw [serve_eq, Registry.current_serve] at hrest
      rw [serve_eq]
      exact .cons ⟨hanswer.reply, congrArg (· ++ _) hanswer.events⟩ hrest

end Shared

/-- In whatever order their maps come, requests leave the same registry. -/
theorem Registry.after_inOrders (requests : List Request) :
    ∀ (r : Registry) (orders : Nat → EntryOrder),
      Registry.serve.after r (inOrders orders requests) = Registry.serve.after r requests := by
  induction requests with
  | nil => exact fun r orders => rfl
  | cons q rest ih =>
      intro r orders
      have hrest := ih (r.serve q).state fun i => orders (i + 1)
      rw [inOrders, List.mapIdx_cons, Server.after_cons, Server.after_cons,
        (r.agrees_serve q (orders 0)).2]
      exact hrest

/-! ## Copies -/

/-- A process with its shared locale, and the copies that its parts have asked for. -/
structure Session where
  shared : Shared
  /-- The copies in the order in which they were made. -/
  copies : List Registry

namespace Session

/-- A process in the beginning. -/
def initial : Session :=
  ⟨.initial, []⟩

/-- Some part of the process makes a request, and keeps the copy if it gets one. -/
def step (w : Session) (q : Request) : Session :=
  let response := w.shared.serve q
  { shared := response.state
    copies := match response.reply with
      | .copy r => w.copies ++ [r]
      | _ => w.copies }

/-- Requests of the parts of a process, one after the other. -/
def run (w : Session) (requests : List Request) : Session :=
  requests.foldl step w

theorem run_append (w : Session) (front back : List Request) :
    w.run (front ++ back) = (w.run front).run back :=
  List.foldl_append

theorem shared_run (requests : List Request) :
    ∀ w : Session, (w.run requests).shared = Shared.serve.after w.shared requests := by
  induction requests with
  | nil => exact fun w => rfl
  | cons q rest ih => exact fun w => ih (w.step q)

/-- A request for a copy adds one behind the others; no request does anything else to them. -/
theorem copies_step (w : Session) (q : Request) :
    (w.step q).copies = w.copies ++ if q.isSnapshot then [w.shared.registry] else [] := by
  cases q with
  | snapshot => rfl
  | formatStrict seconds template =>
      rw [step, Shared.serve]
      cases w.shared.formatStrict seconds template with
      | error e => exact (List.append_nil _).symm
      | ok shown => exact (List.append_nil _).symm
  | _ => exact (List.append_nil _).symm

/-- The copies that were made before some requests are still there behind them. -/
theorem prefix_run (requests : List Request) :
    ∀ w : Session, w.copies <+: (w.run requests).copies := by
  induction requests with
  | nil => exact fun w => List.prefix_rfl
  | cons q rest ih =>
      intro w
      have hstep : w.copies <+: (w.step q).copies := ⟨_, (copies_step w q).symm⟩
      exact hstep.trans (ih (w.step q))

theorem length_copies_run (requests : List Request) :
    ∀ w : Session, (w.run requests).copies.length
      = w.copies.length + requests.countP Request.isSnapshot := by
  induction requests with
  | nil => exact fun w => rfl
  | cons q rest ih =>
      intro w
      refine (ih (w.step q)).trans ?_
      rw [copies_step, List.countP_cons, List.length_append]
      cases q.isSnapshot with
      | true =>
          show w.copies.length + 1 + _ = w.copies.length + (_ + 1)
          omega
      | false => rfl

/-- A copy is the registry as it was when it was asked for, whatever is asked for later. -/
theorem copy_run (before after : List Request) :
    (initial.run (before ++ .snapshot :: after)).copies[before.countP Request.isSnapshot]?
      = some (Registry.serve.after .initial before) := by
  have hcount : (initial.run before).copies.length = before.countP Request.isSnapshot :=
    (length_copies_run before initial).trans (Nat.zero_add _)
  have hshared : (initial.run before).shared.registry = Registry.serve.after .initial before := by
    rw [shared_run, Shared.registry_after]
    rfl
  have hstep := copies_step (initial.run before) .snapshot
  rw [hshared] at hstep
  rw [run_append]
  obtain ⟨later, hlater⟩ := prefix_run after ((initial.run before).step .snapshot)
  show (((initial.run before).step .snapshot).run after).copies[_]? = _
  rw [← hlater, hstep, ← hcount, List.append_assoc, List.getElem?_append_right le_rfl,
    Nat.sub_self]
  rfl

end Session

/-- **The shared locale is a private registry.**  Whatever is asked of the locale of a process, in
any order, every reply is that of a registry of one's own that is asked the same, and so are the
events, but that each selection is announced with the identifiers selected before and after it.  The
maps that the registry meets in its loads may come in other orders than those of the shared locale:
then a load that fails may report another fault of the same definition, and nothing else differs.  A
copy stays what the registry was when the copy was asked for, whatever is asked later, and its
selected table shows what the shared locale would have shown then. -/
theorem Shared.simulates_registry (requests : List Request) :
    (∀ orders : Nat → EntryOrder,
      List.Forall₂ (fun call answer => call.1.AnswersAgree call.2 answer)
        (requests.zip (Shared.serve.transcript .initial requests))
        (List.zipWith (fun answer more => (answer.1, answer.2 ++ more))
          (Registry.serve.transcript .initial (inOrders orders requests))
          (announcements baselineId requests))) ∧
    Shared.serve.transcript .initial requests
      = List.zipWith (fun answer more => (answer.1, answer.2 ++ more))
          (Registry.serve.transcript .initial requests) (announcements baselineId requests) ∧
    (∀ e ∈ (announcements baselineId requests).flatten,
      e.level = .debug ∧ e.message = "locale changed") ∧
    ∀ (before after : List Request) (orders : Nat → EntryOrder),
      let r := Registry.serve.after .initial (inOrders orders before)
      (Session.initial.run (before ++ .snapshot :: after)).copies[before.countP Request.isSnapshot]?
        = some r ∧
      ∀ (seconds : UInt64) (template : String),
        ((Shared.serve.after .initial before).serve (.formatStrict seconds template)).reply
          = .text (r.selected.map fun t => t.localizer.format seconds template) := by
  refine ⟨Shared.transcript_agrees requests .initial, Shared.transcript_eq requests .initial,
    fun e he => ?_, fun before after orders => ?_⟩
  · obtain ⟨old, new, rfl⟩ := exists_of_mem_announcements he
    exact ⟨rfl, rfl⟩
  · rw [Registry.after_inOrders]
    refine ⟨Session.copy_run before after, fun seconds template => ?_⟩
    rw [Shared.serve_eq, Shared.registry_after]
    exact Registry.reply_formatStrict _ seconds template

end Elapsed.Locale
