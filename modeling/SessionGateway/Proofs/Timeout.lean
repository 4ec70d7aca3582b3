import SessionGateway.Client.Run
import SessionGateway.Proofs.ExactValue
import SessionGateway.Proofs.Record

/-! How long a call may take. A timeout is a number of seconds rounded to the nanosecond, and
whether it is positive is asked before it is rounded. -/

namespace SessionGateway

namespace Duration

theorem totalNanoseconds_ofNanoseconds (n : ℕ) : (ofNanoseconds n).totalNanoseconds = n :=
  Nat.div_add_mod' n (power 10 9)

theorem zero_eq_ofNanoseconds_iff {n : ℕ} : ⟨0, 0⟩ = ofNanoseconds n ↔ n = 0 := by
  constructor
  · intro h
    rw [← totalNanoseconds_ofNanoseconds n, ← h]
    rfl
  · rintro rfl
    rfl

/-- A duration of whole seconds in a word and nanoseconds short of another second, which are those
nearest to a number of seconds. -/
structure Rounds (d : Duration) (seconds : ℚ) : Prop where
  nanoseconds_lt : d.nanoseconds < 10 ^ 9
  seconds_lt : d.seconds < 2 ^ 64
  nearest : IsNearest (seconds * 10 ^ 9) (d.seconds * 10 ^ 9 + d.nanoseconds)

end Duration

namespace Binary64

/-- The nanoseconds of a number of seconds. -/
def nanoseconds (x : Binary64) : ℕ := roundHalfEven (x.whole * power 10 9) x.unit

theorem ofSeconds?_eq (x : Binary64) : Duration.ofSeconds? x =
    if x.isFinite && x.whole < power 2 64 * x.unit then some (.ofNanoseconds x.nanoseconds)
    else none := rfl

/-- Reals with a fraction are too small for their nanoseconds to round up to the bound. -/
theorem nanoseconds_lt {x : Binary64} (h : x.whole < power 2 64 * x.unit) :
    x.nanoseconds < power 2 64 * power 10 9 := by
  have h9 : power 10 9 = 1000000000 := rfl
  have h64 : power 2 64 = 18446744073709551616 := rfl
  have h53 : power 2 53 = 9007199254740992 := rfl
  -- without a fraction nothing is rounded, and with one there are fewer than `2 ^ 53` seconds
  rcases Int.le_total 0 x.exponent with he | he
  · have hunit : x.unit = 1 := by
      have hzero : (-x.exponent).toNat = 0 := by omega
      rw [unit, hzero, power_zero]
    rw [nanoseconds, hunit, roundHalfEven_one]
    rw [hunit, Nat.mul_one] at h
    exact Nat.mul_lt_mul_of_pos_right h (by decide)
  · have hwhole : x.whole = x.significand := by
      have hzero : x.exponent.toNat = 0 := by omega
      rw [whole, hzero, power_zero, Nat.mul_one]
    have hround := roundHalfEven_le (x.whole * power 10 9) x.unit
    have hquotient := Nat.div_le_self (x.whole * power 10 9) x.unit
    have hsignificand := x.significand_lt
    simp only [nanoseconds, h9, h64, h53] at hround hquotient hsignificand ⊢
    omega

theorem value_mul_eq_div {x : Binary64} (hnegative : x.negative = false) :
    x.value * 10 ^ 9 = ((x.whole * power 10 9 : ℕ) : ℚ) / x.unit := by
  rw [value_eq_div, hnegative, if_neg Bool.false_ne_true, one_mul, Nat.cast_mul,
    div_mul_eq_mul_div]
  norm_num

theorem isNearest_nanoseconds {x : Binary64} (hnegative : x.negative = false) :
    IsNearest (x.value * 10 ^ 9) x.nanoseconds := by
  rw [value_mul_eq_div hnegative]
  exact isNearest_roundHalfEven _ x.unit_pos

/-- Half a nanosecond and less is rounded away. -/
theorem nanoseconds_eq_zero_iff {x : Binary64} (hnegative : x.negative = false) :
    x.nanoseconds = 0 ↔ x.value * 10 ^ 9 ≤ 1 / 2 := by
  rw [value_mul_eq_div hnegative, nanoseconds, roundHalfEven_eq_zero_iff _ x.unit_pos,
    div_le_div_iff₀ (Nat.cast_pos.mpr x.unit_pos) two_pos, one_mul, mul_comm 2]
  exact_mod_cast Iff.rfl

end Binary64

namespace Duration

open Binary64

theorem rounds_ofNanoseconds {x : Binary64} (hpos : 0 < x.value) (hlt : x.value < 2 ^ 64) :
    (ofNanoseconds x.nanoseconds).Rounds x.value := by
  have hnegative := negative_of_pos hpos
  have hwhole : x.whole < power 2 64 * x.unit := by
    exact_mod_cast (value_lt_iff hnegative (2 ^ 64)).mp (by exact_mod_cast hlt)
  refine ⟨Nat.mod_lt _ (by decide), ?_, ?_⟩
  · exact Nat.div_lt_of_lt_mul (by rw [Nat.mul_comm]; exact nanoseconds_lt hwhole)
  · have htotal : ((ofNanoseconds x.nanoseconds).seconds : ℤ) * 10 ^ 9 +
        (ofNanoseconds x.nanoseconds).nanoseconds = x.nanoseconds := by
      exact_mod_cast totalNanoseconds_ofNanoseconds x.nanoseconds
    rw [htotal]
    exact isNearest_nanoseconds hnegative

end Duration

theorem TimeoutFault.failure_eq_invalidConfig (fault : TimeoutFault) :
    ∃ detail, fault.failure = .invalidConfig detail := by
  cases fault <;> exact ⟨_, rfl⟩

namespace ClientConfig

open Binary64 in
/-- A timeout is what is finite, positive and below the range of seconds, to the nanosecond. -/
theorem timeout_eq_ok_iff {config : ClientConfig} {d : Duration} :
    config.timeout = .ok d ↔
      (config.timeoutSeconds.isFinite = true ∧ 0 < config.timeoutSeconds.value ∧
        config.timeoutSeconds.value < 2 ^ 64) ∧
      d = .ofNanoseconds config.timeoutSeconds.nanoseconds := by
  unfold timeout
  generalize config.timeoutSeconds = x
  by_cases hfinite : x.isFinite = true
  · have hnonpositive := isNonpositive_iff hfinite
    by_cases hpos : 0 < x.value
    · have hcheck : x.isNonpositive = false := by
        rw [Bool.eq_false_iff, ne_eq, hnonpositive, not_le]
        exact hpos
      have hbound : x.value < 2 ^ 64 ↔ x.whole < power 2 64 * x.unit := by
        exact_mod_cast value_lt_iff (negative_of_pos hpos) (2 ^ 64)
      rw [isNaN_of_isFinite hfinite, hcheck, ofSeconds?_eq, hfinite, hbound]
      by_cases hwhole : x.whole < power 2 64 * x.unit
      · simp [hwhole, hpos, eq_comm]
      · simp [hwhole]
    · have hcheck : x.isNonpositive = true := hnonpositive.mpr (not_lt.mp hpos)
      simp [hcheck, hpos]
  · have hnone : Duration.ofSeconds? x = none := by
      simp [ofSeconds?_eq, hfinite]
    rw [hnone]
    split <;> simp [hfinite]

theorem exists_timeout_iff (config : ClientConfig) :
    (∃ d, config.timeout = .ok d) ↔
      config.timeoutSeconds.isFinite = true ∧ 0 < config.timeoutSeconds.value ∧
        config.timeoutSeconds.value < 2 ^ 64 := by
  simp only [timeout_eq_ok_iff, exists_and_left, exists_eq, and_true]

end ClientConfig

namespace Client

variable {Transport : Type} {build : Duration → Except String Transport} {config : ClientConfig}

theorem create_of_timeout_eq_error {fault : TimeoutFault} (h : config.timeout = .error fault) :
    create build config = .error fault.failure := by
  rw [create, h]
  rfl

theorem create_eq_ok_iff {client : Client} {transport : Transport} :
    create build config = .ok (client, transport) ↔
      client = fresh config ∧ ∃ d, config.timeout = .ok d ∧ build d = .ok transport := by
  constructor
  · intro h
    obtain ⟨d, hd, h⟩ := bind_eq_ok_iff.mp h
    obtain ⟨built, hbuilt, h⟩ := bind_eq_ok_iff.mp h
    obtain ⟨rfl, rfl⟩ := Prod.mk.inj (Except.ok.inj h)
    exact ⟨rfl, d, mapError_eq_ok_iff.mp hd, mapError_eq_ok_iff.mp hbuilt⟩
  · rintro ⟨rfl, d, hd, hbuilt⟩
    exact bind_eq_ok_iff.mpr ⟨d, mapError_eq_ok_iff.mpr hd,
      bind_eq_ok_iff.mpr ⟨transport, mapError_eq_ok_iff.mpr hbuilt, rfl⟩⟩

/-- Where transports can be built, the timeout alone decides whether there is a client. -/
theorem exists_create_iff (hbuild : ∀ d, ∃ transport, build d = .ok transport) :
    (∃ client transport, create build config = .ok (client, transport)) ↔
      ∃ d, config.timeout = .ok d := by
  constructor
  · rintro ⟨client, transport, h⟩
    obtain ⟨-, d, hd, -⟩ := create_eq_ok_iff.mp h
    exact ⟨d, hd⟩
  · rintro ⟨d, hd⟩
    obtain ⟨transport, htransport⟩ := hbuild d
    exact ⟨_, transport, create_eq_ok_iff.mpr ⟨rfl, d, hd, htransport⟩⟩

theorem exists_create_eq_error_iff (hbuild : ∀ d, ∃ transport, build d = .ok transport) :
    (∃ detail, create build config = .error (.invalidConfig detail)) ↔
      ¬∃ d, config.timeout = .ok d := by
  constructor
  · rintro ⟨detail, h⟩ hd
    obtain ⟨client, transport, hok⟩ := (exists_create_iff hbuild).mpr hd
    exact nomatch hok.symm.trans h
  · intro hnone
    cases hfault : config.timeout with
    | ok d => exact absurd ⟨d, hfault⟩ hnone
    | error fault =>
      obtain ⟨detail, hdetail⟩ := fault.failure_eq_invalidConfig
      exact ⟨detail, hdetail ▸ create_of_timeout_eq_error hfault⟩

end Client

/-- A timeout is taken just if it is finite, positive and below `2 ^ 64` seconds, and then rounded to
the nanosecond; any other is an invalid configuration. A client can be made with the same timeouts
and no others, as long as its transport can be built. -/
theorem timeout_exact {Transport : Type} (build : Duration → Except String Transport)
    (hbuild : ∀ d, ∃ transport, build d = .ok transport) (config : ClientConfig) :
    let x := config.timeoutSeconds
    let fits := x.isFinite = true ∧ 0 < x.value ∧ x.value < 2 ^ 64
    ((∃ d, config.timeout = .ok d) ↔ fits) ∧
    (∀ d, config.timeout = .ok d → d.Rounds x.value) ∧
    (∀ fault, config.timeout = .error fault → ∃ detail, fault.failure = .invalidConfig detail) ∧
    ((∃ client transport, Client.create build config = .ok (client, transport)) ↔ fits) ∧
    ((∃ detail, Client.create build config = .error (.invalidConfig detail)) ↔ ¬fits) := by
  intro x fits
  have haccepted : (∃ d, config.timeout = .ok d) ↔ fits := config.exists_timeout_iff
  refine ⟨haccepted, fun d hd => ?_, fun fault _ => fault.failure_eq_invalidConfig,
    (Client.exists_create_iff hbuild).trans haccepted,
    (Client.exists_create_eq_error_iff hbuild).trans (not_congr haccepted)⟩
  obtain ⟨⟨-, hpos, hlt⟩, rfl⟩ := ClientConfig.timeout_eq_ok_iff.mp hd
  exact Duration.rounds_ofNanoseconds hpos hlt

/-- Settings with a timeout of 976562 nanoseconds and a half. -/
def tiedSettings : ClientConfig :=
  (ClientConfig.new "https://gw" "key-1").withTimeout (.ofRatio false 1 1024)

theorem timeout_exact_tie :
    let build : Duration → Except String Duration := .ok
    (∀ d, ∃ transport, build d = .ok transport) ∧
      tiedSettings.timeout = .ok ⟨0, 976562⟩ ∧
      (⟨0, 976562⟩ : Duration).Rounds tiedSettings.timeoutSeconds.value ∧
      ∃ client transport, Client.create build tiedSettings = .ok (client, transport) := by
  intro build
  have hbuild (d : Duration) : ∃ transport, build d = .ok transport := ⟨d, rfl⟩
  have htimeout : tiedSettings.timeout = .ok ⟨0, 976562⟩ := rfl
  obtain ⟨haccepted, hrounds, -, hcreated, -⟩ := timeout_exact build hbuild tiedSettings
  exact ⟨hbuild, htimeout, hrounds _ htimeout, hcreated.mpr (haccepted.mp ⟨_, htimeout⟩)⟩

/-- A timeout that is taken is zero just if it is half a nanosecond at the most. The transport of a
client is built for what the timeout is rounded to, zero or not. -/
theorem timeout_zero_iff {Transport : Type} (build : Duration → Except String Transport)
    (config : ClientConfig) :
    let x := config.timeoutSeconds
    (config.timeout = .ok ⟨0, 0⟩ ↔
      x.isFinite = true ∧ 0 < x.value ∧ x.value * 10 ^ 9 ≤ 1 / 2) ∧
    ((∃ d, config.timeout = .ok d ∧ 0 < d.totalNanoseconds) ↔
      x.isFinite = true ∧ 1 / 2 < x.value * 10 ^ 9 ∧ x.value < 2 ^ 64) ∧
    (∀ transport, Client.create build config = .ok (.fresh config, transport) ↔
      ∃ d, config.timeout = .ok d ∧ build d = .ok transport) := by
  intro x
  have hzero (hpos : 0 < x.value) : x.nanoseconds = 0 ↔ x.value * 10 ^ 9 ≤ 1 / 2 :=
    x.nanoseconds_eq_zero_iff (Binary64.negative_of_pos hpos)
  have hsmall (h : x.value * 10 ^ 9 ≤ 1 / 2) : x.value < 2 ^ 64 := by linarith
  have hlarge (h : 1 / 2 < x.value * 10 ^ 9) : 0 < x.value := by linarith
  refine ⟨?_, ?_, fun transport => ?_⟩
  · rw [ClientConfig.timeout_eq_ok_iff, Duration.zero_eq_ofNanoseconds_iff]
    constructor
    · rintro ⟨⟨hfinite, hpos, -⟩, hn⟩
      exact ⟨hfinite, hpos, (hzero hpos).mp hn⟩
    · rintro ⟨hfinite, hpos, hle⟩
      exact ⟨⟨hfinite, hpos, hsmall hle⟩, (hzero hpos).mpr hle⟩
  · constructor
    · rintro ⟨d, hd, htotal⟩
      obtain ⟨⟨hfinite, hpos, hlt⟩, rfl⟩ := ClientConfig.timeout_eq_ok_iff.mp hd
      rw [Duration.totalNanoseconds_ofNanoseconds] at htotal
      exact ⟨hfinite, not_le.mp (mt (hzero hpos).mpr htotal.ne'), hlt⟩
    · rintro ⟨hfinite, hgt, hlt⟩
      have hpos := hlarge hgt
      refine ⟨_, ClientConfig.timeout_eq_ok_iff.mpr ⟨⟨hfinite, hpos, hlt⟩, rfl⟩, ?_⟩
      rw [Duration.totalNanoseconds_ofNanoseconds]
      exact Nat.pos_of_ne_zero (mt (hzero hpos).mp (not_le.mpr hgt))
  · rw [Client.create_eq_ok_iff, and_iff_right rfl]

/-- A tenth of a nanosecond is a timeout, and leaves no time for any call. -/
theorem timeout_of_tenth_nanosecond :
    let config := (ClientConfig.new "https://gw" "key-1").withTimeout (.ofDecimal false 1 (-10))
    config.timeout = .ok ⟨0, 0⟩ ∧
      Client.create (fun d => .ok d) config = .ok (.fresh config, ⟨0, 0⟩) := ⟨rfl, rfl⟩

end SessionGateway
