import NodeVolumes.HostPath.Provision
import NodeVolumes.Proofs.HostPath.SizeToken
import NodeVolumes.Proofs.Quantity

/-! # Limits of quotas

Every limit that the arithmetic yields is the size token of a number, whatever the capacity and the grace settings, so
a command can be made of it.

* `exists_sizeToken_of_toAbsolute`: a limit for one grace setting, for a capacity that is not negative.
* `resolveLimits_eq`: what is made of the limits for both settings, by their numbers.
* `isWellFormed_of_quotaLimits`: both limits of a request. -/

namespace NodeVolumes.HostPath

/-! ### Arithmetic -/

variable {capacity : Int}

theorem isNegative_ofInt (h : 0 ≤ capacity) : (Binary64.ofInt capacity).isNegative = false :=
  Binary64.isNegative_nearest (Rat.intCast_nonneg.2 h)

theorem capacityKib_nonneg (h : 0 ≤ capacity) : 0 ≤ capacityKib capacity := by
  have hquotient : (Binary64.ofInt capacity / .finite 1024).isNegative = false :=
    Binary64.isNegative_div (isNegative_ofInt h) (by decide)
  exact Binary64.toInt64_nonneg (Binary64.isNegative_ceil hquotient)

theorem grownKib_nonneg {percent : Binary64} (h : 0 ≤ capacity) (hpercent : percent.isNegative = false) :
    0 ≤ grownKib capacity percent := by
  have hbytes := isNegative_ofInt h
  have hextra : (Binary64.ofInt capacity * percent / .finite 100).isNegative = false :=
    Binary64.isNegative_div (Binary64.isNegative_mul hbytes hpercent) (by decide)
  have hkib : ((Binary64.ofInt capacity + Binary64.ofInt capacity * percent / .finite 100) /
      .finite 1024).isNegative = false :=
    Binary64.isNegative_div (Binary64.isNegative_add hbytes hextra) (by decide)
  exact Binary64.toInt64_nonneg (Binary64.isNegative_ceil hkib)

theorem percentage_nonneg {grace : String} {percent : Decimal} (h : percentage? grace = some percent) :
    0 ≤ percent.value := by
  unfold percentage? at h
  split at h
  · exact Decimal.value_nonneg_of_unsigned? h
  · cases h

/-! ### One limit -/

/-- A setting is accepted when it is empty or a percentage, and a percentage makes the capacity grow. -/
theorem toAbsolute_eq_ok_iff {grace token : String} : toAbsolute grace capacity = .ok token ↔
    grace = "" ∧ token = unsetLimit ∨ grace ≠ "" ∧ ∃ percent, percentage? grace = some percent ∧
      token = sizeToken (grownKib capacity ((Binary64.nearest percent.value).atMost 100)) := by
  unfold toAbsolute
  split_ifs with hgrace
  · simp [hgrace, eq_comm]
  · cases percentage? grace with
    | none => simp [hgrace]
    | some percent => simp [hgrace, eq_comm]

theorem exists_grownKib {percent : Decimal} {grace : String} (hcapacity : 0 ≤ capacity)
    (h : percentage? grace = some percent) :
    ∃ kib : Nat, grownKib capacity ((Binary64.nearest percent.value).atMost 100) = kib := by
  have hcapped : ((Binary64.nearest percent.value).atMost 100).isNegative = false :=
    Binary64.isNegative_atMost (Binary64.isNegative_nearest (percentage_nonneg h)) (by decide)
  exact Int.eq_ofNat_of_zero_le (grownKib_nonneg hcapacity hcapped)

/-- A limit for one grace setting is the token of a number. -/
theorem exists_sizeToken_of_toAbsolute {grace token : String} (hcapacity : 0 ≤ capacity)
    (h : toAbsolute grace capacity = .ok token) : ∃ kib : Nat, token = sizeToken kib := by
  rcases toAbsolute_eq_ok_iff.1 h with ⟨-, rfl⟩ | ⟨-, percent, hpercent, rfl⟩
  · exact ⟨0, rfl⟩
  · obtain ⟨kib, hkib⟩ := exists_grownKib hcapacity hpercent
    exact ⟨kib, congrArg sizeToken hkib⟩

theorem toAbsolute_eq_sizeToken_iff {grace : String} {kib : Nat} (hcapacity : 0 ≤ capacity) :
    toAbsolute grace capacity = .ok (sizeToken kib) ↔
      grace = "" ∧ kib = 0 ∨ grace ≠ "" ∧ ∃ percent, percentage? grace = some percent ∧
        (kib : Int) = grownKib capacity ((Binary64.nearest percent.value).atMost 100) := by
  rw [toAbsolute_eq_ok_iff, sizeToken_eq_unsetLimit_iff]
  refine or_congr_right (and_congr_right fun _ => exists_congr fun percent => and_congr_right fun hpercent => ?_)
  obtain ⟨n, hn⟩ := exists_grownKib hcapacity hpercent
  rw [hn, sizeToken_inj, Int.ofNat_inj]

/-! ### Both limits -/

variable {grace : QuotaGrace} {limits : QuotaLimits}

/-- The limits for both settings, by their numbers. -/
theorem resolveLimits_eq {soft hard : Nat} (hsoft : toAbsolute grace.soft capacity = .ok (sizeToken soft))
    (hhard : toAbsolute grace.hard capacity = .ok (sizeToken hard)) : resolveLimits grace capacity =
      if soft = 0 ∧ hard = 0 then .ok ⟨sizeToken (capacityKib capacity), sizeToken (capacityKib capacity)⟩
      else if soft = 0 ∨ hard = 0 ∨ soft ≤ hard then .ok ⟨sizeToken soft, sizeToken hard⟩
      else .error (.quotaLimitOrder (sizeToken soft) (sizeToken hard)) := by
  unfold resolveLimits
  rw [hsoft, hhard]
  show (if _ then _ else _) = _
  simp only [sizeToken_eq_unsetLimit_iff, tokenExceeds_sizeToken_iff]
  by_cases hunset : soft = 0 ∧ hard = 0
  · rw [if_pos hunset, if_pos hunset]
    rfl
  · rw [if_neg hunset, if_neg hunset]
    by_cases hsingle : soft = 0 ∨ hard = 0
    · rw [if_pos hsingle, if_pos (by omega)]
      rfl
    · by_cases horder : hard < soft
      · rw [if_neg hsingle, if_pos horder, if_neg (by omega)]
        rfl
      · rw [if_neg hsingle, if_neg horder, if_pos (by omega)]
        rfl

theorem exists_of_resolveLimits (hcapacity : 0 ≤ capacity) (h : resolveLimits grace capacity = .ok limits) :
    ∃ soft hard : Nat, toAbsolute grace.soft capacity = .ok (sizeToken soft) ∧
      toAbsolute grace.hard capacity = .ok (sizeToken hard) ∧
      limits = if soft = 0 ∧ hard = 0 then ⟨sizeToken (capacityKib capacity), sizeToken (capacityKib capacity)⟩
        else ⟨sizeToken soft, sizeToken hard⟩ := by
  have h' := h
  unfold resolveLimits at h'
  obtain ⟨softToken, hsoft, h₁⟩ := except_bind_eq_ok_iff.1 h'
  obtain ⟨hardToken, hhard, -⟩ := except_bind_eq_ok_iff.1 h₁
  obtain ⟨soft, rfl⟩ := exists_sizeToken_of_toAbsolute hcapacity hsoft
  obtain ⟨hard, rfl⟩ := exists_sizeToken_of_toAbsolute hcapacity hhard
  refine ⟨soft, hard, hsoft, hhard, ?_⟩
  rw [resolveLimits_eq hsoft hhard] at h
  split_ifs at h ⊢ <;> cases h <;> rfl

theorem isWellFormed_of_resolveLimits (hcapacity : 0 ≤ capacity) (h : resolveLimits grace capacity = .ok limits) :
    limits.isWellFormed = true := by
  obtain ⟨soft, hard, -, -, rfl⟩ := exists_of_resolveLimits hcapacity h
  obtain ⟨kib, hkib⟩ := Int.eq_ofNat_of_zero_le (capacityKib_nonneg hcapacity)
  unfold QuotaLimits.isWellFormed
  split_ifs <;> simp only [hkib, isSizeToken_sizeToken, Bool.and_self]

/-- The limits for a request are size tokens, so that a quota can be set with them. -/
theorem isWellFormed_of_quotaLimits {request : ProvisionRequest} (h : quotaLimits request grace = .ok limits) :
    limits.isWellFormed = true := by
  unfold quotaLimits at h
  split at h
  · cases h
  · obtain ⟨bytes, hbytes, hlimits⟩ := except_bind_eq_ok_iff.1 h
    exact isWellFormed_of_resolveLimits (parseBytes_nonneg hbytes) hlimits

end NodeVolumes.HostPath
