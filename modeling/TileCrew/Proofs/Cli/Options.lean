/-
The paths that options have. A path of a world or a script gets into options from a text only, so it is one that a text
spells (`read_spelled`), and written down it is that path again.
-/
import TileCrew.Cli.Options
import TileCrew.Proofs.Files.Path
import TileCrew.Proofs.Outcomes

namespace TileCrew.Options

/-- the paths of what a run is made from are such as texts spell -/
structure Spelled (o : Options) : Prop where
  world : ∀ p, o.world = some (.value p) → p.Spelled
  script : ∀ p, o.script = some p → p.Spelled

variable {o o' : Options} {n : Name} {s : String}

theorem give_spelled (h : o.give n s = .ok o') (ho : o.Spelled) : o'.Spelled := by
  have hspelled := Path.ofText_spelled s
  cases n with
  | help => cases h
  | play | replayDir | replay | logLevel =>
    cases h
    exact ⟨ho.world, ho.script⟩
  | ticks | dt | seed | every =>
    obtain ⟨v, -, rfl⟩ := map_ok.1 h
    exact ⟨ho.world, ho.script⟩
  | script =>
    cases h
    exact ⟨ho.world, fun p hp => Option.some.inj hp ▸ hspelled⟩
  | world =>
    cases h
    refine ⟨fun p hp => ?_, ho.script⟩
    cases hp
    exact hspelled

theorem giveNothing_spelled (n : Name) (ho : o.Spelled) : (o.giveNothing n).Spelled := by
  cases n with
  | world => exact ⟨(fun p hp => by cases hp), ho.script⟩
  | script => exact ⟨ho.world, (fun p hp => by cases hp)⟩
  | _ => exact ⟨ho.world, ho.script⟩

theorem giveBehind_spelled (h : o.giveBehind n s = .ok o') (ho : o.Spelled) : o'.Spelled := by
  unfold giveBehind at h
  split at h
  · cases h
    exact giveNothing_spelled n ho
  · exact give_spelled h ho

theorem take_spelled {words : List Word} {r : Options × List String} (h : o.take words = .ok r) (ho : o.Spelled) :
    r.1.Spelled := by
  fun_induction take o words generalizing r with
  | case1 => cases h; exact ho
  | case2 o s rest ih | case3 o rest ih | case4 o s rest ih =>
    obtain ⟨r', hr', rfl⟩ := map_ok.1 h
    have hr : r'.1.Spelled := ih hr' ho
    exact hr
  | case5 o n rest _ ih =>
    obtain ⟨o', ho', h⟩ := bind_ok.1 h
    exact ih o' h (give_spelled ho' ho)
  | case6 | case7 | case11 => cases h
  | case8 o n rest s _ ih | case9 o n rest s _ ih =>
    obtain ⟨o', ho', h⟩ := bind_ok.1 h
    exact ih o' h (giveBehind_spelled ho' ho)
  | case10 o n _ s rest ih =>
    obtain ⟨o', ho', h⟩ := bind_ok.1 h
    exact ih o' h (give_spelled ho' ho)

/-- **The paths in options that are read from arguments are such as texts spell.** -/
theorem read_spelled {arguments : List String} (h : read arguments = .ok o) : o.Spelled := by
  obtain ⟨words, -, h⟩ := bind_ok.1 h
  obtain ⟨⟨o', leftOver⟩, htake, h⟩ := bind_ok.1 h
  have hnew : ({} : Options).Spelled := ⟨(fun p hp => by cases hp), (fun p hp => by cases hp)⟩
  have ho' : o'.Spelled := take_spelled htake hnew
  dsimp only at h
  split at h
  · cases h; exact ho'
  · cases h

end TileCrew.Options
