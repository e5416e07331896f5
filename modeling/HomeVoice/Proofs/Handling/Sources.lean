import HomeVoice.Proofs.Control.Sources
import HomeVoice.Proofs.Handling.Authorisation
import HomeVoice.Proofs.Protocol.Envelope

/-!
# Selecting sources by name

A source that is asked for by its name as it is spoken is selected, unless the name of a source that
is listed before it is a part of its own; then such a source is selected. A name written with
hyphens or underscores does not select its source.
-/

namespace HomeVoice

namespace Control

/-- A source that a player lists is asked for by its name. By the name as it is spoken some source
is selected: the first one whose spoken name is in that name, which is the source itself exactly
when no source before it has its name in there. A plain name is spoken as it is written, in any
letter case, and in any letter case only a plain name selects its source, under the same condition.
What is selected is the data of the single call of a directive that may control the player, and the
answer is no error when the call is accepted. -/
theorem source_selected_by_name (s : Situation) (player : s.entity.domain = .mediaPlayer)
    {before after : List String} {source requested : String}
    (listed : s.entity.attributes.texts? Key.sourceList = some (before ++ source :: after))
    (names : ((before ++ source :: after).map spokenSource).Nodup)
    (asked : s.payload.requireText "input" = .ok requested) :
    let spoken := spokenSource source
    ((Text.lowercase requested).toList = spoken →
      ∃ chosen, Selects s chosen ∧ FirstIn (before ++ source :: after) spoken chosen ∧
        (chosen = source ↔ ∀ t ∈ before, ¬spokenSource t <:+: spoken)) ∧
    (Text.lowercase requested = Text.lowercase source →
      ((Text.lowercase requested).toList = spoken ↔ Plain source) ∧
      (Selects s source ↔ Plain source ∧ ∀ t ∈ before, ¬spokenSource t <:+: spoken)) ∧
    ∀ chosen, Selects s chosen →
      sourceCall s chosen =
        ⟨"media_player", "select_source", s.entity.id, [(Key.source, .str chosen)]⟩ ∧
      ∀ {σ : Type} (ports : Ports σ) (st : σ) (q : Request) (message : Json) (d : Directive)
          (id : EntityId) (endpoint : Endpoint), Directive.ofMessage message = .ok d →
          q.Authorised (ports.store st) d .selectInput id s.entity endpoint →
          q.situation d s.entity = s →
        let run := (q.handle message).run ports st
        run.calls = [(sourceCall s chosen, q.context)] ∧
        ((ports.call st (sourceCall s chosen) q.context).1 = .ok () →
          ∃ response, run.result = .ok response ∧ response.isError = false) := by
  intro spoken
  have distinct : (before ++ source :: after).Nodup := names.of_map _
  refine ⟨exists_selects_of_spoken listed distinct asked, ?_, ?_⟩
  · intro letters
    refine ⟨?_, selects_iff_of_lowercase_eq listed distinct asked letters⟩
    rw [letters, eq_comm]
    exact spokenSource_eq_iff
  · rintro chosen ⟨o, decided, called⟩
    refine ⟨sourceCall_of_player player, ?_⟩
    intro σ ports st q message d id endpoint hd auth same run
    have route : DirectiveKind.selectInput.route = .control selectInput := rfl
    obtain ⟨calls, result⟩ := auth.handle_of_ok hd route (same.symm ▸ decided) called
    refine ⟨calls, fun accepted => ⟨_, result accepted, ?_⟩⟩
    exact decide_eq_false (decided_of_ok (k := .selectInput) rfl decided).name_ne

end Control

/-- A player with a source whose name is a part of another's and one whose name has a hyphen. -/
def Entity.lounge : Entity :=
  ⟨⟨Domain.mediaPlayer.name, "lounge", by decide, by decide, by decide⟩, "on",
    ⟨[("supported_features", .int 2048),
      (Key.sourceList, .json (.ofStrings ["TV", "Apple TV", "HDMI-1"]))]⟩, ⟨0, 0⟩⟩

/-- Asks the player for a source. -/
def Directive.selectLounge (source : String) : Directive :=
  { addressed "Alexa.InputController" "SelectInput" Entity.lounge.id with
    payload := ⟨[("input", .str source)]⟩ }

namespace Control

/-- The player selects its input with a hyphen when it is asked for in words. -/
theorem source_selected_by_name_lounge :
    let q := Request.exposing .all
    let ports := Hub.ports ⟨1, 0⟩ .none
    let s := q.situation (.selectLounge "Hdmi 1") .lounge
    let run := (q.handle (Directive.selectLounge "Hdmi 1").envelope).run ports
      (Hub.ofEntities [Entity.lounge])
    Entity.lounge.domain = .mediaPlayer ∧
      (["TV", "Apple TV", "HDMI-1"].map spokenSource).Nodup ∧
      Selects s "HDMI-1" ∧ run.calls = [(sourceCall s "HDMI-1", q.context)] := by
  intro q ports s run
  have names : (["TV", "Apple TV", "HDMI-1"].map spokenSource).Nodup := by decide +kernel
  have listed : s.entity.attributes.texts? Key.sourceList =
      some (["TV", "Apple TV"] ++ "HDMI-1" :: []) := rfl
  obtain ⟨spoken, -, handled⟩ := source_selected_by_name s rfl listed names rfl
  obtain ⟨chosen, selected, -, itself⟩ := spoken (by decide +kernel)
  obtain rfl := itself.2 (by decide +kernel)
  obtain ⟨calls, -⟩ := (handled _ selected).2 ports (Hub.ofEntities [Entity.lounge]) q _ _ _ _
    (Directive.ofMessage_envelope_of_plain rfl rfl)
    ⟨rfl, rfl, rfl, rfl, rfl, by decide +kernel⟩ rfl
  exact ⟨rfl, names, selected, calls⟩

/-- The player selects another source than the one it is asked for by name, and has no source with
the name of one that it lists. -/
theorem source_not_selected_by_own_name :
    let s (source : String) := (Request.exposing .all).situation (.selectLounge source) .lounge
    Entity.lounge.domain = .mediaPlayer ∧
    (∀ source, (s source).payload.requireText "input" = .ok source) ∧
    ∃ sources, Entity.lounge.attributes.texts? Key.sourceList = some sources ∧
      (sources.map spokenSource).Nodup ∧
      "Apple TV" ∈ sources ∧ Selects (s "Apple TV") "TV" ∧ ¬Selects (s "Apple TV") "Apple TV" ∧
      "HDMI-1" ∈ sources ∧ selectInput (s "HDMI-1") = .error (.unknownInput "HDMI-1") := by
  intro s
  have listed (source : String) :
      (s source).entity.attributes.texts? Key.sourceList = some ["TV", "Apple TV", "HDMI-1"] := rfl
  have first : FirstIn ["TV", "Apple TV", "HDMI-1"] (Text.lowercase "Apple TV").toList "TV" :=
    find?_occursIn_eq_some_iff.1 (by decide +kernel)
  have names : (["TV", "Apple TV", "HDMI-1"].map spokenSource).Nodup := by decide +kernel
  refine ⟨rfl, fun _ => rfl, _, listed "TV", names, by decide, ?_, ?_, by decide, ?_⟩
  · exact (selects_iff (listed _) rfl).2 first
  · intro selected
    exact absurd (first.unique ((selects_iff (listed _) rfl).1 selected)) (by decide)
  · exact selectInput_eq_error (listed _) rfl (by decide +kernel)

end Control

end HomeVoice
