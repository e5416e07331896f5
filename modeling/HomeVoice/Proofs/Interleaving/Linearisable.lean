import HomeVoice.Proofs.Handling.Undated
import HomeVoice.Proofs.Interleaving.Serial

/-!
# Requests in flight are linearisable

As long as no request changes a value by a difference while another one controls the same entity,
requests in flight cannot be told from requests that are handled one after another.
-/

namespace HomeVoice

namespace Flight

variable {ι : Type} {settings : Settings} {arrivals again : ι → Arrival} {hub : Hub}

/-! ## Requests that take no effect -/

/-- Requests that have nothing to do but to record their results can stand anywhere. -/
theorem serial_of_sublist {R : ι → Except ProtocolError Response → Prop} {order serial : List ι}
    (within : order.Sublist serial) (distinct : serial.Nodup)
    (silent : ∀ i ∈ serial, i ∉ order → ∀ hub : Hub,
      R i (hub.reply settings (arrivals i)) ∧ hub.after settings (arrivals i) = hub)
    (replies : List.Forall₂ R order (hub.replies settings (order.map arrivals))) :
    List.Forall₂ R serial (hub.replies settings (serial.map arrivals)) ∧
      hub.afterAll settings (serial.map arrivals) = hub.afterAll settings (order.map arrivals) := by
  induction within generalizing hub with
  | slnil => exact ⟨replies, rfl⟩
  | @cons order serial i within ih =>
    obtain ⟨new, distinct⟩ := List.nodup_cons.1 distinct
    have absent : i ∉ order := fun member => new (within.subset member)
    obtain ⟨reply, after⟩ := silent i List.mem_cons_self absent hub
    obtain ⟨rest, last⟩ := ih distinct
      (fun j member => silent j (List.mem_cons_of_mem i member)) replies
    have first : hub.afterAll settings ((i :: serial).map arrivals) =
        (hub.after settings (arrivals i)).afterAll settings (serial.map arrivals) := rfl
    have all : hub.replies settings ((i :: serial).map arrivals) =
        hub.reply settings (arrivals i) ::
          (hub.after settings (arrivals i)).replies settings (serial.map arrivals) := rfl
    rw [first, all, after]
    exact ⟨.cons reply rest, last⟩
  | @cons_cons order serial i within ih =>
    obtain ⟨new, distinct⟩ := List.nodup_cons.1 distinct
    obtain _ | ⟨reply, replies⟩ := replies
    have silent' : ∀ j ∈ serial, j ∉ order → ∀ hub : Hub,
        R j (hub.reply settings (arrivals j)) ∧ hub.after settings (arrivals j) = hub := by
      intro j member absent
      refine silent j (List.mem_cons_of_mem i member) fun member' => ?_
      rcases List.mem_cons.1 member' with rfl | member'
      · exact new member
      · exact absent member'
    obtain ⟨rest, last⟩ := ih distinct silent' replies
    exact ⟨.cons reply rest, last⟩

theorem forall₂_of_map_eq {α β γ : Type} {R : α → β → Prop} {f : β → γ} {as : List α}
    {bs bs' : List β} (related : List.Forall₂ R as bs) (same : bs'.map f = bs.map f) :
    List.Forall₂ (fun a b' => ∃ b, R a b ∧ f b = f b') as bs' := by
  induction related generalizing bs' with
  | nil =>
    obtain rfl := List.map_eq_nil_iff.1 same
    exact .nil
  | @cons a b as bs head _ ih =>
    obtain ⟨b', bs'', rfl, first, rest⟩ := List.map_eq_cons_iff.1 same
    exact .cons ⟨b, head, first.symm⟩ (ih rest)

variable [DecidableEq ι]

/-- Requests in flight on one hub are linearisable, if no request changes a value of an entity by a
difference while another one controls the entity. However their steps are interleaved, each request
calls, or reads without calling, at most once. Handling the messages one after another in the order
in which this happens, with those that do neither anywhere between, gives every request the same
reply and leaves the same hub, but for fresh ids and the times. -/
theorem linearisable (settings : Settings) (hub : Hub) {arrivals again : ι → Arrival}
    (repeats : ∀ i, (arrivals i).Repeats (again i)) (apart : Apart arrivals)
    {log : List (ι × ExchangeStep)} {final : Flight ι}
    (runs : Runs arrivals (start settings arrivals hub) log final)
    (landed : final.Landed arrivals) :
    (order log).Nodup ∧
    ∀ serial : List ι, serial.Nodup → (order log).Sublist serial →
      List.Forall₂ (fun i reply => ∃ result, final.left i = .done result ∧
          result.map Response.unstamped = reply.map Response.unstamped)
        serial (hub.replies settings (serial.map again)) ∧
      final.hub.undated = (hub.afterAll settings (serial.map again)).undated := by
  have core := runs.serial apart landed fun i => stage_start settings (arrivals i) hub
  refine ⟨core.distinct, ?_⟩
  intro serial distinct within
  have silent : ∀ i ∈ serial, i ∉ order log → ∀ hub : Hub,
      final.left i = .done (hub.reply settings (arrivals i)) ∧
        hub.after settings (arrivals i) = hub := by
    intro i _ absent hub
    obtain ⟨result, concludes⟩ := core.others i absent
    obtain ⟨reply, after⟩ := concludes.run (arrivals i).now (arrivals i).outages hub
    refine ⟨?_, after⟩
    rw [runs.left_eq_done landed concludes]
    exact congrArg Exchange.done reply.symm
  obtain ⟨replies, last⟩ := serial_of_sublist within distinct silent core.replies
  obtain ⟨sameReplies, sameHub⟩ :=
    Hub.all_handled_undated settings repeats (rfl : hub.undated = hub.undated) serial
  refine ⟨forall₂_of_map_eq replies sameReplies, ?_⟩
  have landing : final.hub = hub.afterAll settings (serial.map arrivals) := core.hub.trans last.symm
  rw [landing, sameHub]

end Flight

/-- Another light, which is dimmed. -/
def Entity.shelf : Entity :=
  { Entity.desk with
    id := { Entity.desk.id with objectName := "shelf", objectName_ne := by decide }
    state := "on"
    attributes := ⟨[(Key.brightness, .int 128), ("supported_features", .int 1)]⟩ }

/-- Asks for a light that is a little brighter. -/
def Directive.brighterShelf : Directive :=
  { addressed "Alexa.BrightnessController" "AdjustBrightness" Entity.shelf.id with
    payload := ⟨[("brightnessDelta", .int 10)]⟩ }

/-- One light is told to turn on and to turn off at once, while another is made brighter. All three
requests have read before the first of them calls, and the one that turns on calls last. -/
theorem Flight.linearisable_lights :
    let settings := (Request.exposing .all).settings
    let hub := Hub.ofEntities [Entity.desk, Entity.shelf]
    let asked : Fin 3 → Directive := [
      .addressed "Alexa.PowerController" "TurnOn" Entity.desk.id,
      .addressed "Alexa.PowerController" "TurnOff" Entity.desk.id, .brighterShelf].get
    let arrivals : Fin 3 → Arrival := fun i =>
      ⟨(asked i).envelope, ⟨.zero, none⟩, ⟨.zero, .zero, ⟨1, 0⟩⟩, ⟨1, 0⟩, .none⟩
    let flown := (start settings arrivals hub).follow arrivals [0, 1, 2, 1, 2, 0, 1, 0, 2]
    let later := hub.afterAll settings ([1, 2, 0].map arrivals)
    Apart arrivals ∧ flown.2.Landed arrivals ∧ order flown.1 = [1, 2, 0] ∧
      (later.get? Entity.desk.id).map Entity.state = some "on" ∧
      ((later.get? Entity.shelf.id).bind fun e => e.attributes.int? Key.brightness) = some 153 ∧
      flown.2.hub.undated = later.undated := by
  intro settings hub asked arrivals flown later
  have repeats : ∀ i, (arrivals i).Repeats (arrivals i) := fun _ => ⟨rfl, rfl⟩
  have version : ∀ i, (asked i).header.payloadVersion = protocolVersion := by decide
  have plain : ∀ i, ((asked i).endpoint.all fun ref =>
      (ref.extra.get? "endpointId").isNone) = true := by
    decide +kernel
  have read (i : Fin 3) : Directive.ofMessage (arrivals i).message = .ok (asked i) := by
    refine Directive.ofMessage_envelope (version i) ?_
    intro ref about
    have absent := plain i
    rw [about] at absent
    exact Option.isNone_iff_eq_none.1 absent
  have others : ∀ i j, i ≠ j → ((asked i).kind?.any (· ∈ DirectiveKind.relative)) = true →
      (asked i).target? ≠ (asked j).target? := by
    decide +kernel
  have apart : Apart arrivals := by
    rintro i j id ne ⟨d, k, relative, hd, kind, named⟩ ⟨d', k', judge, hd', kind', route, named'⟩
    cases (read i).symm.trans hd
    cases (read j).symm.trans hd'
    refine others i j ne ?_ (named.trans named'.symm)
    rw [kind]
    exact decide_eq_true relative
  have landed : flown.2.Landed arrivals := by
    have idle : ∀ i, ((flown.2.left i).step? (arrivals i).ports flown.2.hub).isNone = true := by
      decide +kernel
    exact fun i => Option.isNone_iff_eq_none.1 (idle i)
  have ordered : order flown.1 = [1, 2, 0] := by decide +kernel
  obtain ⟨distinct, serial⟩ :=
    linearisable settings hub repeats apart (runs_follow arrivals _ _) landed
  have same := (serial [1, 2, 0] (by decide) (by rw [ordered])).2
  exact ⟨apart, landed, ordered, by decide +kernel, by decide +kernel, same⟩

end HomeVoice
