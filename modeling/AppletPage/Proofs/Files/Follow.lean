import AppletPage.Proofs.Files.Walk

/-! Where names lead through links. -/

namespace AppletPage.Files

open Text

/-- Following a name leads, through links, to where it goes on as another name. -/
inductive Hops (files : Files) (ending : Ending) :
    Nat → Path → Bool → List String → Nat → Path → Bool → List String → Prop where
  | stay {links : Nat} {here : Path} {slash : Bool} {parts : List String} :
      Hops files ending links here slash parts links here slash parts
  | hop {links left : Nat} {here there last : Path} {slash slash' : Bool}
      {parts rest parts' : List String} {name target : String} (walk : Walk files here parts there)
      (named : IsName name) (usable : (ending = .created && slash && rest.isEmpty) = false)
      (followed : (rest.isEmpty && ending = .kept) = false)
      (found : files.get? (there ++ [name]) = some (.link target))
      (hops : Hops files ending links (if (Trail.ofText target).fromRoot then [] else there)
        (slash || (rest.isEmpty && (Trail.ofText target).slash))
        ((Trail.ofText target).parts ++ rest) left last slash' parts') :
      Hops files ending (links + 1) here slash (parts ++ name :: rest) left last slash' parts'

variable {a b files : Files} {ending : Ending} {links left : Nat} {here there place : Path}
  {slash slash' : Bool} {name : String} {parts parts' rest : List String}

def ended (slash : Bool) : Place → Place
  | .present path node =>
      if slash && node ≠ .directory then .nowhere .notDirectory else .present path node
  | place => place

theorem follow_of_stopped {gone : Nat} {place : Place}
    (stopped : advance files ending slash here gone .directory parts = .stopped place) :
    follow files ending links here gone slash parts = ended slash place := by
  rw [follow, stopped]
  cases place <;> rfl

theorem Walk.advance_link {target : String} (walk : Walk files here parts there)
    (named : IsName name) (usable : (ending = .created && slash && rest.isEmpty) = false)
    (followed : (rest.isEmpty && ending = .kept) = false)
    (found : files.get? (there ++ [name]) = some (.link target)) :
    advance files ending slash here 0 .directory (parts ++ name :: rest) =
      .link there target rest := by
  rw [walk.advance_append (List.cons_ne_nil name rest), advance_name named usable, found, entered,
    followed, if_neg Bool.false_ne_true]

theorem Hops.follow_eq (hops : Hops files ending links here slash parts left there slash' parts') :
    follow files ending links here 0 slash parts =
      follow files ending left there 0 slash' parts' := by
  induction hops with
  | stay => rfl
  | hop walk named usable followed found hops ih =>
      rw [follow, walk.advance_link named usable followed found]
      exact ih

/-- What following comes to if it comes to anything: it ends behind some links. -/
theorem exists_hops (files : Files) (ending : Ending) (links : Nat) (here : Path) (slash : Bool)
    (parts : List String) :
    (∃ cause, follow files ending links here 0 slash parts = .nowhere cause) ∨
      ∃ left there slash' parts' place,
        Hops files ending links here slash parts left there slash' parts' ∧
          advance files ending slash' there 0 .directory parts' = .stopped place := by
  -- The links are what is left of the limit; each hop takes one of them.
  induction links generalizing here slash parts with
  | zero =>
      cases arrived : advance files ending slash here 0 .directory parts with
      | stopped place => exact .inr ⟨0, here, slash, parts, place, .stay, arrived⟩
      | link there target rest =>
          refine .inl ⟨.tooManyLinks, ?_⟩
          rw [follow, arrived]
  | succ links ih =>
      have arrival := arrival_advance files ending slash here parts
      cases arrived : advance files ending slash here 0 .directory parts with
      | stopped place => exact .inr ⟨links + 1, here, slash, parts, place, .stay, arrived⟩
      | link there target rest =>
          rw [arrived] at arrival
          cases arrival with
          | link walk named usable followed found =>
              rcases ih (if (Trail.ofText target).fromRoot then [] else there)
                (slash || (rest.isEmpty && (Trail.ofText target).slash))
                ((Trail.ofText target).parts ++ rest) with
                ⟨cause, lost⟩ | ⟨left, last, slash', parts', place, hops, stopped⟩
              · refine .inl ⟨cause, ?_⟩
                rw [follow, arrived]
                exact lost
              · exact .inr ⟨left, last, slash', parts', place,
                  .hop walk named usable followed found hops, stopped⟩

theorem Hops.toFollowed (hops : Hops files ending links here slash parts left there slash' parts') :
    Hops files .followed links here slash parts left there slash' parts' := by
  induction hops with
  | stay => exact .stay
  | hop walk named usable followed found hops ih =>
      exact .hop walk named rfl (Bool.and_false _) found ih

theorem Hops.ofCreated (hops : Hops files .created links here slash parts left there slash' parts')
    (notKept : ending ≠ .kept) :
    Hops files ending links here slash parts left there slash' parts' := by
  cases ending with
  | followed => exact hops.toFollowed
  | created => exact hops
  | kept => exact absurd rfl notKept

theorem Hops.append (hops : Hops files .followed links here slash parts left there slash' parts')
    (ending : Ending) (name : String) :
    Hops files ending links here false (parts ++ [name]) left there false (parts' ++ [name]) := by
  induction hops with
  | stay => exact .stay
  | @hop _ _ _ _ _ _ _ _ rest _ _ _ walk named usable followed found hops ih =>
      have more : (rest ++ [name]).isEmpty = false :=
        List.isEmpty_eq_false_iff.mpr (concat_ne_nil rest name)
      rw [List.append_assoc, List.cons_append]
      refine .hop walk named (by rw [more, Bool.and_false]) (by rw [more, Bool.false_and]) found ?_
      rw [more, Bool.false_and, Bool.or_false, ← List.append_assoc]
      exact ih

theorem exists_hops_arrival {outcome : Place}
    (followed : follow files ending links here 0 slash parts = outcome)
    (somewhere : ∀ cause, outcome ≠ .nowhere cause) :
    ∃ left there slash' parts',
      Hops files ending links here slash parts left there slash' parts' ∧
        Arrival files ending slash' there parts' (.stopped outcome) := by
  rcases exists_hops files ending links here slash parts with
    ⟨cause, lost⟩ | ⟨left, there, slash', parts', place, hops, stopped⟩
  · exact absurd (followed.symm.trans lost) (somewhere cause)
  · have arrival := arrival_advance files ending slash' there parts'
    rw [stopped] at arrival
    rw [hops.follow_eq, follow_of_stopped stopped] at followed
    have same : place = outcome := by
      cases place with
      | present path node =>
          rw [ended] at followed
          split at followed
          · exact absurd followed.symm (somewhere _)
          · exact followed
      | vacant directory name => exact followed
      | nowhere cause => exact followed
    exact ⟨left, there, slash', parts', hops, same ▸ arrival⟩

theorem exists_hops_walk
    (followed : follow files ending links here 0 slash parts = .present place .directory) :
    ∃ left there slash' parts',
      Hops files ending links here slash parts left there slash' parts' ∧
        Walk files there parts' place := by
  obtain ⟨left, there, slash', parts', hops, arrival⟩ := exists_hops_arrival followed nofun
  cases arrival with
  | directory walk => exact ⟨left, there, slash', parts', hops, walk⟩

theorem follow_congr (same : ∀ path, a.get? path = b.get? path) (ending : Ending) (links : Nat)
    (here : Path) (gone : Nat) (slash : Bool) (parts : List String) :
    follow a ending links here gone slash parts = follow b ending links here gone slash parts := by
  induction links generalizing here gone slash parts with
  | zero => rw [follow, follow, advance_congr same]
  | succ links ih =>
      rw [follow, follow, advance_congr same]
      simp only [ih]

/-! From some files to others that keep the ways. -/

theorem Walk.mono (ways : WaysKept a b) (walk : Walk a here parts there) :
    Walk b here parts there := by
  induction walk with
  | nil => exact .nil
  | point walk ih => exact .point ih
  | up walk ih => exact .up ih
  | name named found walk ih => exact .name named (ways.kept _ _ found id) ih

theorem Hops.mono (ways : WaysKept a b)
    (hops : Hops a ending links here slash parts left there slash' parts') :
    Hops b ending links here slash parts left there slash' parts' := by
  induction hops with
  | stay => exact .stay
  | hop walk named usable followed found hops ih =>
      exact .hop (walk.mono ways) named usable followed (ways.kept _ _ found id) ih

theorem follow_directory_mono (ways : WaysKept a b)
    (followed : follow a .followed links here 0 slash parts = .present place .directory) :
    follow b .followed links here 0 slash parts = .present place .directory := by
  obtain ⟨left, there, slash', parts', hops, walk⟩ := exists_hops_walk followed
  rw [(hops.mono ways).follow_eq, follow_of_stopped ((walk.mono ways).advance_eq rfl), ended,
    if_neg (by simp)]

theorem follow_mono {node : Node} (ways : WaysKept a b)
    (followed : follow a .followed links here 0 slash parts = .present place node)
    (still : b.get? place = some node) :
    follow b .followed links here 0 slash parts = .present place node := by
  obtain ⟨left, there, slash', parts', hops, arrival⟩ := exists_hops_arrival followed nofun
  cases arrival with
  | directory walk =>
      rw [(hops.mono ways).follow_eq, follow_of_stopped ((walk.mono ways).advance_eq rfl), ended,
        if_neg (by simp)]
  | file walk named usable found =>
      rw [hops.follow_eq,
        follow_of_stopped (walk.advance_last named found nofun usable)] at followed
      rw [(hops.mono ways).follow_eq,
        follow_of_stopped ((walk.mono ways).advance_last named still nofun usable)]
      exact followed
  | kept walk named kept found => cases kept

/-! The last part of a name. -/

theorem Hops.follow_name {node : Node}
    (hops : Hops files ending links here slash parts left there slash' (parts' ++ [name]))
    (walk : Walk files there parts' place) (named : IsName name)
    (found : files.get? (place ++ [name]) = some node) (notLink : ∀ target, node ≠ .link target)
    (usable : (ending = .created && slash') = false) (fits : slash' = false ∨ node = .directory) :
    follow files ending links here 0 slash parts = .present (place ++ [name]) node := by
  rw [hops.follow_eq, follow_of_stopped (walk.advance_last named found notLink usable), ended,
    if_neg]
  rcases fits with rfl | rfl
  · simp
  · simp

theorem exists_follow_kept
    (hops : Hops files .followed links here slash parts left there slash' parts')
    (walk : Walk files there parts' place) :
    ∃ path node, follow files .kept links here 0 false parts = .present path node := by
  induction hops with
  | stay => exact ⟨place, .directory, by rw [follow_of_stopped (walk.advance_eq rfl)]; rfl⟩
  | @hop _ _ start middle _ _ _ first rest _ name target before named usable followed found
      hops ih =>
      cases rest with
      | nil =>
          -- The last part is the link that is kept.
          refine ⟨middle ++ [name], .link target, ?_⟩
          rw [follow_of_stopped (before.advance_kept named found)]
          rfl
      | cons next others =>
          obtain ⟨path, node, kept⟩ := ih walk
          refine ⟨path, node, ?_⟩
          rw [follow, before.advance_link named rfl rfl found]
          exact kept

end AppletPage.Files
