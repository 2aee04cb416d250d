import NodeVolumes.Proofs.HostPath.Quota

/-! # Limits and capacity

A limit is worked out in double precision: the capacity is rounded, multiplied, divided and added to itself, and the
sum is divided and cut to a word. No step loses the order of two capacities or of two percentages, and a capacity that
a quantity stands for is divided exactly. So a volume never gets less room than it asked for, and limits are in the
order of their settings.

* `capacityKib_le_grownKib`: the capacity with a percentage added is not less than the capacity.
* `grownKib_mono`: it grows with the capacity and with the percentage.
* `limits_cover_capacity`: the limits of a request are not below the capacity.
* `limits_are_compared_as_numbers`: when limits are refused for their order.
* `limits_grow`: a limit grows with its setting, so no settings in their order are refused. -/

namespace NodeVolumes.HostPath

open Binary64 (IsFormatted Ascending)

variable {capacity capacity' : Int} {p p' : Rat}

/-! ### Capacities -/

theorem exists_ofInt (hnonneg : 0 ≤ capacity) (hle : capacity ≤ capacity') (hmax : capacity' ≤ Binary64.maxInt64) :
    ∃ r r', Binary64.ofInt capacity = .finite r ∧ Binary64.ofInt capacity' = .finite r' ∧ IsFormatted r ∧
      0 ≤ r ∧ r ≤ r' := by
  have hbound : IsFormatted (2 ^ 63) := by
    refine ⟨by decide +kernel, 1, 63, by norm_num, by norm_num, by norm_num⟩
  have hascending : Ascending (Binary64.ofInt capacity) (Binary64.ofInt capacity') :=
    Binary64.ascending_nearest (by exact_mod_cast hnonneg) (by exact_mod_cast hle)
  have hmax' : (capacity' : Rat) ≤ 2 ^ 63 := by
    have : capacity' ≤ 2 ^ 63 := hmax.trans (by decide)
    exact_mod_cast this
  obtain ⟨r', hr', -, -⟩ := Binary64.exists_nearest_eq (by exact_mod_cast hnonneg.trans hle) hmax' hbound
  have hr'' : Binary64.ofInt capacity' = .finite r' := hr'
  obtain ⟨r, hr, hr0, hrr'⟩ := (hr'' ▸ hascending).exists_finite
  exact ⟨r, r', hr, hr'', Binary64.isFormatted_of_nearest (by exact_mod_cast hnonneg) hr, hr0, hrr'⟩

theorem capacityKib_of_parseBytes {raw : String} (h : parseBytes raw = .ok capacity) :
    capacityKib capacity = ((capacity : Rat) / 1024).ceil := by
  obtain ⟨n, hn, hle, rfl⟩ := exists_of_parseBytes h
  rcases le_or_gt n Binary64.maxInt64 with hmax | hmax
  · have hdiv : Binary64.finite n / .finite 1024 = .finite (n / 1024) := by
      have hformatted : IsFormatted (n / 2 ^ 10) := hn.div_two_pow (by norm_num)
      norm_num at hformatted
      exact hformatted.nearest_eq
    have hnonneg : 0 ≤ ((n : Rat) / 1024).ceil :=
      Rat.intCast_nonneg.1 ((div_nonneg hn.nonneg (by norm_num)).trans Rat.le_ceil)
    have hceil : ((n : Rat) / 1024).ceil ≤ Binary64.maxInt64 :=
      Rat.ceil_le_iff.2 ((div_le_self hn.nonneg (by norm_num)).trans (by exact_mod_cast hmax))
    unfold capacityKib
    rw [min_eq_right hmax, show Binary64.ofInt n = .finite n from hn.nearest_eq, hdiv]
    exact Binary64.toInt64_intCast hnonneg hceil
  · -- the number just past the greatest word is cut to it, and rounding takes it back
    have hn : n = 2 ^ 63 := by
      unfold Binary64.maxInt64 at hmax
      omega
    subst hn
    decide +kernel

/-! ### Growth -/

/-- The capacity with a percentage added is not less than the capacity. -/
theorem capacityKib_le_grownKib (hnonneg : 0 ≤ capacity) (hmax : capacity ≤ Binary64.maxInt64) (hp : 0 ≤ p) :
    capacityKib capacity ≤ grownKib capacity (.finite p) := by
  obtain ⟨r, -, hr, -, hformatted, hr0, -⟩ := exists_ofInt hnonneg le_rfl hmax
  have hextra : Ascending (.finite 0) (.finite r * .finite p / .finite 100) := by
    have hnone : Binary64.finite 0 * .finite 0 / .finite 100 = .finite 0 := by decide +kernel
    exact hnone ▸ (Binary64.ascending_mul le_rfl hr0 le_rfl hp).div (by norm_num)
  have hsum : Ascending (.finite r) (.finite r + .finite r * .finite p / .finite 100) := by
    have hrr : Ascending (.finite r) (.finite r) := .finite hr0 le_rfl
    have hzero : Binary64.finite r + .finite 0 = .finite r := by
      show Binary64.nearest (r + 0) = _
      rw [add_zero, hformatted.nearest_eq]
    have := hrr.add hextra
    rwa [hzero] at this
  unfold capacityKib grownKib
  rw [hr]
  exact (hsum.div (by norm_num)).ceil.toInt64_le

/-- The capacity with a percentage added grows with both of them. -/
theorem grownKib_mono (hnonneg : 0 ≤ capacity) (hle : capacity ≤ capacity') (hmax : capacity' ≤ Binary64.maxInt64)
    (hp : 0 ≤ p) (hpp' : p ≤ p') : grownKib capacity (.finite p) ≤ grownKib capacity' (.finite p') := by
  obtain ⟨r, r', hr, hr', -, hr0, hrr'⟩ := exists_ofInt hnonneg hle hmax
  have hbytes : Ascending (.finite r) (.finite r') := .finite hr0 hrr'
  have hextra := (Binary64.ascending_mul hr0 hrr' hp hpp').div (d := 100) (by norm_num)
  unfold grownKib
  rw [hr, hr']
  exact ((hbytes.add hextra).div (by norm_num)).ceil.toInt64_le

/-! ### Limits of settings -/

variable {low high lowToken highToken : String} {percent percent' : Decimal}

theorem exists_capped (hnonneg : 0 ≤ percent.value) (hle : percent.value ≤ percent'.value) :
    ∃ p p', (Binary64.nearest percent.value).atMost 100 = .finite p ∧
      (Binary64.nearest percent'.value).atMost 100 = .finite p' ∧ 0 ≤ p ∧ p ≤ p' :=
  (Binary64.ascending_nearest hnonneg hle).atMost (by norm_num)

theorem ne_empty_of_percentage {grace : String} (h : percentage? grace = some percent) : grace ≠ "" := by
  rintro rfl
  cases h

theorem exists_percentage {grace token : String} (hgrace : grace ≠ "") (h : toAbsolute grace capacity = .ok token) :
    ∃ percent, percentage? grace = some percent := by
  rcases toAbsolute_eq_ok_iff.1 h with ⟨hempty, -⟩ | ⟨-, percent, hpercent, -⟩
  · exact absurd hempty hgrace
  · exact ⟨percent, hpercent⟩

theorem exists_toAbsolute {grace : String} (hnonneg : 0 ≤ capacity) (hpercent : percentage? grace = some percent) :
    ∃ kib : Nat, toAbsolute grace capacity = .ok (sizeToken kib) := by
  obtain ⟨kib, hkib⟩ := exists_grownKib hnonneg hpercent
  exact ⟨kib, toAbsolute_eq_ok_iff.2 (.inr ⟨ne_empty_of_percentage hpercent, percent, hpercent, congrArg _ hkib.symm⟩)⟩

theorem grownKib_of_toAbsolute {grace : String} {kib : Nat} (hnonneg : 0 ≤ capacity)
    (hpercent : percentage? grace = some percent) (h : toAbsolute grace capacity = .ok (sizeToken kib)) :
    (kib : Int) = grownKib capacity ((Binary64.nearest percent.value).atMost 100) := by
  rcases (toAbsolute_eq_sizeToken_iff hnonneg).1 h with ⟨hempty, -⟩ | ⟨-, percent', hpercent', hkib⟩
  · exact absurd hempty (ne_empty_of_percentage hpercent)
  · rwa [Option.some.inj (hpercent.symm.trans hpercent')]

theorem eq_zero_of_toAbsolute {grace : String} {kib : Nat} (hnonneg : 0 ≤ capacity) (hgrace : grace = "")
    (h : toAbsolute grace capacity = .ok (sizeToken kib)) : kib = 0 := by
  rcases (toAbsolute_eq_sizeToken_iff hnonneg).1 h with ⟨-, hkib⟩ | ⟨hset, -⟩
  · exact hkib
  · exact absurd hgrace hset

theorem capacityKib_le_of_toAbsolute {grace : String} {kib : Nat} (hnonneg : 0 ≤ capacity)
    (hmax : capacity ≤ Binary64.maxInt64) (hgrace : grace ≠ "")
    (h : toAbsolute grace capacity = .ok (sizeToken kib)) : capacityKib capacity ≤ kib := by
  obtain ⟨percent, hpercent⟩ := exists_percentage hgrace h
  obtain ⟨p, -, hp, -, hp0, -⟩ := exists_capped (percentage_nonneg hpercent) le_rfl
  rw [grownKib_of_toAbsolute hnonneg hpercent h, hp]
  exact capacityKib_le_grownKib hnonneg hmax hp0

theorem le_of_toAbsolute {kib kib' : Nat} (hnonneg : 0 ≤ capacity) (hle : capacity ≤ capacity')
    (hmax : capacity' ≤ Binary64.maxInt64) (hlow : percentage? low = some percent)
    (hhigh : percentage? high = some percent') (hpercent : percent.value ≤ percent'.value)
    (hlowToken : toAbsolute low capacity = .ok (sizeToken kib))
    (hhighToken : toAbsolute high capacity' = .ok (sizeToken kib')) : kib ≤ kib' := by
  obtain ⟨p, p', hp, hp', hp0, hpp'⟩ := exists_capped (percentage_nonneg hlow) hpercent
  have hkib := grownKib_of_toAbsolute hnonneg hlow hlowToken
  have hkib' := grownKib_of_toAbsolute (hnonneg.trans hle) hhigh hhighToken
  have hgrown := grownKib_mono hnonneg hle hmax hp0 hpp'
  rw [← hp, ← hp', ← hkib, ← hkib'] at hgrown
  exact_mod_cast hgrown

/-! ### Both limits of a request -/

variable {grace : QuotaGrace}

/-- The limits of a request are not below its capacity.

Both are size tokens. A limit that has a setting is at least the capacity in KiB, rounded up, so that the volume gets
the room that was asked for; without any setting both limits are exactly this number. -/
theorem limits_cover_capacity {raw : String} {limits : QuotaLimits}
    (hbytes : parseBytes raw = .ok capacity) (hlimits : resolveLimits grace capacity = .ok limits) :
    limits.isWellFormed = true ∧ ∃ soft hard : Nat,
      kibOfToken? limits.soft = some soft ∧ kibOfToken? limits.hard = some hard ∧
      (grace.soft ≠ "" → ((capacity : Rat) / 1024).ceil ≤ soft) ∧
      (grace.hard ≠ "" → ((capacity : Rat) / 1024).ceil ≤ hard) ∧
      (grace.soft = "" → grace.hard = "" →
        soft = ((capacity : Rat) / 1024).ceil ∧ hard = ((capacity : Rat) / 1024).ceil) := by
  have hnonneg := parseBytes_nonneg hbytes
  have hmax := parseBytes_le hbytes
  refine ⟨isWellFormed_of_resolveLimits hnonneg hlimits, ?_⟩
  rw [← capacityKib_of_parseBytes hbytes]
  obtain ⟨kib, hkib⟩ := Int.eq_ofNat_of_zero_le (capacityKib_nonneg hnonneg)
  obtain ⟨soft, hard, hsoft, hhard, rfl⟩ := exists_of_resolveLimits hnonneg hlimits
  rw [hkib]
  split_ifs with hunset
  · exact ⟨kib, kib, kibOfToken?_sizeToken kib, kibOfToken?_sizeToken kib, fun _ => le_rfl, fun _ => le_rfl,
      fun _ _ => ⟨rfl, rfl⟩⟩
  · refine ⟨soft, hard, kibOfToken?_sizeToken soft, kibOfToken?_sizeToken hard, fun hset => ?_, fun hset => ?_,
      fun hsoftEmpty hhardEmpty => absurd ⟨?_, ?_⟩ hunset⟩
    · exact hkib ▸ capacityKib_le_of_toAbsolute hnonneg hmax hset hsoft
    · exact hkib ▸ capacityKib_le_of_toAbsolute hnonneg hmax hset hhard
    · exact eq_zero_of_toAbsolute hnonneg hsoftEmpty hsoft
    · exact eq_zero_of_toAbsolute hnonneg hhardEmpty hhard

/-- The greatest quantity, cut to the greatest word, with no headroom and with as much as there can be. -/
theorem limits_cover_capacity_greatest : ∃ soft hard : Nat,
    kibOfToken? "9007199254740992k" = some soft ∧ kibOfToken? "18014398509481984k" = some hard ∧
      ((Binary64.maxInt64 : Rat) / 1024).ceil ≤ soft ∧ ((Binary64.maxInt64 : Rat) / 1024).ceil ≤ hard := by
  have hbytes : parseBytes "8Ei" = .ok Binary64.maxInt64 := by decide +kernel
  have hlimits : resolveLimits ⟨"0%", "100%"⟩ Binary64.maxInt64 =
      .ok ⟨"9007199254740992k", "18014398509481984k"⟩ := by decide +kernel
  obtain ⟨-, soft, hard, hsoft, hhard, hleSoft, hleHard, -⟩ := limits_cover_capacity hbytes hlimits
  exact ⟨soft, hard, hsoft, hhard, hleSoft (by decide), hleHard (by decide)⟩

/-- Limits are compared as numbers of KiB.

The order of tokens is the order of the numbers of KiB. Two limits are accepted as they are when the soft one is not
the greater one, and are reported in the other case. A limit that stands alone is accepted as it is. -/
theorem limits_are_compared_as_numbers {soft hard : String} (hnonneg : 0 ≤ capacity)
    (hsoft : toAbsolute grace.soft capacity = .ok soft) (hhard : toAbsolute grace.hard capacity = .ok hard) :
    ∃ s h : Nat, kibOfToken? soft = some s ∧ kibOfToken? hard = some h ∧
      (tokenExceeds soft hard = true ↔ h < s) ∧
      (s ≠ 0 → h ≠ 0 → s ≤ h → resolveLimits grace capacity = .ok ⟨soft, hard⟩) ∧
      (s ≠ 0 → h ≠ 0 → h < s → resolveLimits grace capacity = .error (.quotaLimitOrder soft hard)) ∧
      ((s = 0 ↔ h ≠ 0) → resolveLimits grace capacity = .ok ⟨soft, hard⟩) := by
  obtain ⟨s, rfl⟩ := exists_sizeToken_of_toAbsolute hnonneg hsoft
  obtain ⟨h, rfl⟩ := exists_sizeToken_of_toAbsolute hnonneg hhard
  refine ⟨s, h, kibOfToken?_sizeToken s, kibOfToken?_sizeToken h, tokenExceeds_sizeToken_iff, ?_⟩
  rw [resolveLimits_eq hsoft hhard]
  refine ⟨fun hs _ hle => ?_, fun hs hh hlt => ?_, fun hone => ?_⟩
  · rw [if_neg fun hzero => hs hzero.1, if_pos (.inr (.inr hle))]
  · rw [if_neg fun hzero => hs hzero.1, if_neg (by omega)]
  · rw [if_neg (by omega), if_pos (by omega)]

/-- The soft limit `9k` is a greater text than the hard limit `11k`, and a smaller number. -/
theorem limits_are_compared_as_numbers_widths : "11k" < "9k" ∧ tokenExceeds "9k" "11k" = false ∧
    resolveLimits ⟨"0%", "20%"⟩ 9216 = .ok ⟨"9k", "11k"⟩ := by
  let grace : QuotaGrace := ⟨"0%", "20%"⟩
  have hsoft : toAbsolute grace.soft 9216 = .ok "9k" := by decide +kernel
  have hhard : toAbsolute grace.hard 9216 = .ok "11k" := by decide +kernel
  obtain ⟨s, h, hs, hh, hexceeds, hordered, -⟩ := limits_are_compared_as_numbers (by decide) hsoft hhard
  have hs' : s = 9 := Option.some.inj (hs.symm.trans (by decide +kernel))
  have hh' : h = 11 := Option.some.inj (hh.symm.trans (by decide +kernel))
  refine ⟨by decide +kernel, Bool.eq_false_iff.2 fun hgreater => ?_, hordered ?_ ?_ ?_⟩
  · have := hexceeds.1 hgreater
    omega
  all_goals omega

theorem exists_resolveLimits (hsoft : percentage? grace.soft = some percent)
    (hhard : percentage? grace.hard = some percent') (hpercent : percent.value ≤ percent'.value)
    (hnonneg : 0 ≤ capacity) (hmax : capacity ≤ Binary64.maxInt64) :
    ∃ limits, resolveLimits grace capacity = .ok limits := by
  obtain ⟨soft, hsoftToken⟩ := exists_toAbsolute hnonneg hsoft
  obtain ⟨hard, hhardToken⟩ := exists_toAbsolute hnonneg hhard
  have hle := le_of_toAbsolute hnonneg le_rfl hmax hsoft hhard hpercent hsoftToken hhardToken
  rw [resolveLimits_eq hsoftToken hhardToken]
  split_ifs
  · exact ⟨_, rfl⟩
  · exact ⟨_, rfl⟩
  · omega

/-- Settings whose percentages are in order are not refused for their order, whatever is requested. -/
theorem quotaLimits_ne_quotaLimitOrder (hsoft : percentage? grace.soft = some percent)
    (hhard : percentage? grace.hard = some percent') (hpercent : percent.value ≤ percent'.value)
    (request : ProvisionRequest) (soft hard : String) :
    quotaLimits request grace ≠ .error (.quotaLimitOrder soft hard) := by
  unfold quotaLimits
  cases request.storage? with
  | none =>
    intro h
    cases h
  | some storage =>
    show (parseBytes storage >>= fun capacity => resolveLimits grace capacity) ≠ _
    cases hbytes : parseBytes storage with
    | error e =>
      obtain rfl := eq_capacityParse_of_parseBytes hbytes
      exact nofun
    | ok capacity =>
      obtain ⟨limits, hlimits⟩ :=
        exists_resolveLimits hsoft hhard hpercent (parseBytes_nonneg hbytes) (parseBytes_le hbytes)
      show resolveLimits _ capacity ≠ _
      rw [hlimits]
      exact nofun

/-- A limit grows with the capacity and with the percentage of its setting.

An accepted setting has an exact percentage, of as many digits as are written. Where these percentages are in order, so
are the limits, also for percentages that no double tells apart and beyond the cap. So settings whose soft percentage is
not the greater one give limits for every capacity, and no request is refused for the order of its limits. -/
theorem limits_grow (hnonneg : 0 ≤ capacity) (hle : capacity ≤ capacity') (hmax : capacity' ≤ Binary64.maxInt64)
    (hlow : low ≠ "") (hhigh : high ≠ "") (hlowToken : toAbsolute low capacity = .ok lowToken)
    (hhighToken : toAbsolute high capacity' = .ok highToken) :
    ∃ (percent percent' : Decimal) (kib kib' : Nat),
      percentage? low = some percent ∧ percentage? high = some percent' ∧
      kibOfToken? lowToken = some kib ∧ kibOfToken? highToken = some kib' ∧
      (percent.value ≤ percent'.value → kib ≤ kib' ∧
        (∀ c, 0 ≤ c → c ≤ Binary64.maxInt64 → ∃ limits, resolveLimits ⟨low, high⟩ c = .ok limits) ∧
        ∀ request soft hard, quotaLimits request ⟨low, high⟩ ≠ .error (.quotaLimitOrder soft hard)) := by
  obtain ⟨kib, rfl⟩ := exists_sizeToken_of_toAbsolute hnonneg hlowToken
  obtain ⟨kib', rfl⟩ := exists_sizeToken_of_toAbsolute (hnonneg.trans hle) hhighToken
  obtain ⟨percent, hpercent⟩ := exists_percentage hlow hlowToken
  obtain ⟨percent', hpercent'⟩ := exists_percentage hhigh hhighToken
  refine ⟨percent, percent', kib, kib', hpercent, hpercent', kibOfToken?_sizeToken kib, kibOfToken?_sizeToken kib',
    fun hvalue => ⟨?_, fun c hc hcmax => ?_, ?_⟩⟩
  · exact le_of_toAbsolute hnonneg hle hmax hpercent hpercent' hvalue hlowToken hhighToken
  · exact exists_resolveLimits hpercent hpercent' hvalue hc hcmax
  · exact quotaLimits_ne_quotaLimitOrder hpercent hpercent' hvalue

/-- A percentage that rounds to the cap, for a small capacity, and one beyond the cap for the greatest one. -/
theorem limits_grow_capped : ∃ kib kib' : Nat, kibOfToken? "2k" = some kib ∧
    kibOfToken? "18014398509481984k" = some kib' ∧ kib ≤ kib' := by
  have hlow : toAbsolute "99.99999999999999999999%" 1000 = .ok "2k" := by decide +kernel
  have hhigh : toAbsolute "500%" Binary64.maxInt64 = .ok "18014398509481984k" := by decide +kernel
  obtain ⟨percent, percent', kib, kib', hpercent, hpercent', hkib, hkib', hgrow⟩ :=
    limits_grow (by decide) (by decide) le_rfl (by decide) (by decide) hlow hhigh
  have hle : percent.value ≤ percent'.value := by
    obtain rfl : percent = ⟨false, 9999999999999999999999, -20⟩ :=
      Option.some.inj (hpercent.symm.trans (by decide +kernel))
    obtain rfl : percent' = ⟨false, 500, 0⟩ := Option.some.inj (hpercent'.symm.trans (by decide +kernel))
    decide +kernel
  exact ⟨kib, kib', hkib, hkib', (hgrow hle).1⟩

end NodeVolumes.HostPath
