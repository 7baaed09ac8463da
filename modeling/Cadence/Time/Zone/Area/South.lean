/-
# Zones of the far south

The zones named after places in Antarctica and Australia.

Key definitions: `Zones.antarctica`, `Zones.australia`.
-/
import Cadence.Time.Zone.Basic

namespace Cadence
namespace Time
namespace Zones

/-- The zones named after places in Antarctica. -/
def antarctica : List Record := [
  ⟨"Antarctica/Casey", [0, 28800, 39600], .steady 28800,
    ["sj35k00Blag4o0C73bo0Buz1o0C60l80B2fnh80Cpz9g0Bat4c0C89u80Bacgc0C80no0Basw1oC89wycBag5poC",
      "89wycBag5poC84lacB"]⟩,
  ⟨"Antarctica/Davis", [0, 25200, 18000], .steady 25200,
    ["scub400B42jdw0A27wgs0Bl8uss0C7eqs0Bunmk0C60qs0B"]⟩,
  ⟨"Antarctica/Macquarie", [0, 36000, 39600], .yearly 36000 39600 .australian,
    ["rizm800B8ts4g0C902o0B11wns0Af4kh40Ba6p8g0C9d1c0Basw00C6uao0Bbvs00C6uao0Bbvs00C779c0Bbvs00C",
      "64dc0Bclpc0C6hc00Bc8qo0C6hc00Bc8qo0C6hc00Bc8qo0C6uao0Bc8qo0C6hc00Bc8qo0C6hc00Bc8qo0C6hc00B",
      "c8qo0C6hc00Bc8qo0C6hc00Bc8qo0C7x6o0Bb5uo0C7k800Bb5uo0C6hc00Bc8qo0C6hc00Bc8qo0C6hc00Bbvs00C",
      "7k800Bbitc0C7k800Bbitc0C779c0Bbitc0C779c0Bbitc0C7x6o0B9q000C902o0B9q000C902o0B9q000C902o0B",
      "9q000C902o0B9q000C9d1c0B9q000C902o0B9q000C902o0B9q000C902o0B9q000C902o0B7x6o0Casw00Ba2yo0C",
      "902o0B9q000C902o0B9q000C902o0B9q000C902o0B9q000C9d1c0B9d1c0C902o0Ba2yo0C9d1c0B9d1c0C9d1c0B",
      "9d1c0Cs3400B"]⟩,
  ⟨"Antarctica/Mawson", [0, 21600, 18000], .steady 18000,
    ["sbbiw00Bt22y80C"]⟩,
  ⟨"Antarctica/Palmer", [0, -10800, -14400, -7200], .steady (-10800),
    ["sh00000B31ho0Cbqas0B71mk0Cbqas0B8ovw0C9d440B9px80C9d440B9cyk0C9d440B28t6k0D51ek0B46b6s0C",
      "8c2s0B7x3w0Casys0B7x3w0Cb5xg0B7k580Cb5xg0B7k580Cb5xg0B9cyk0C9d440B7x3w0Casys0B7x3w0Cb5xg0B",
      "7k580C9q2s0B8zzw0Cb5xg0B7x3w0Casys0B7x3w0Casys0B7x3w0Casys0B7x3w0Cb5xg0B7k580Cb5xg0B8n180C",
      "a31g0B7x3w0Ca31g0B9px80C9q2s0B7x3w0Cb5xg0B7k580Cb5xg0B7k580Cb5xg0B7k580Cb5xg0B7x3w0Casys0B",
      "7x3w0Casys0B7x3w0Cb5xg0B7k580Cb5xg0B8n180Ca31g0B7x3w0Casys0B8zzw0C9q2s0Bast80C5eis0Bcyl80C",
      "6hes0Bc8nw0C6udg0Bbvp80C6udg0Bvonw0C4olg0B"]⟩,
  ⟨"Antarctica/Rothera", [0, -10800], .steady (-10800),
    ["sn7v9c0B"]⟩,
  ⟨"Antarctica/Troll", [0, 7200], .yearly 0 7200 .european,
    ["t1zx1g0B"]⟩,
  ⟨"Antarctica/Vostok", [0, 25200, 18000], .steady 18000,
    ["sdbn6o0Biushw0Ae23g0Bf79gs0C"]⟩]

/-- The zones named after places in Australia. -/
def australia : List Record := [
  ⟨"Australia/Adelaide", [33260, 32400, 34200, 37800], .yearly 34200 37800 .australian,
    ["rgieec4B27qdzwC97zyu0D49pc0Ccxfk00D4h400C9d1c0D9d1c0C9q000D902o0Ceeio00D64dc0Cclpc0D6hc00C",
      "c8qo0D6hc00Cc8qo0D6hc00Cc8qo0D6uao0Cc8qo0D6hc00Cc8qo0D6hc00Cc8qo0D6hc00Cc8qo0D6hc00Cc8qo0D",
      "6hc00Cc8qo0D6uao0Cc8qo0D6hc00Cc8qo0D6hc00Cc8qo0D6hc00Cc8qo0D779c0Cb5uo0D7k800Cbitc0D7k800C",
      "bitc0D779c0Cbitc0D779c0Cbitc0D6hc00Cc8qo0D7k800Cb5uo0D6uao0Cc8qo0D779c0Cbitc0D7k800Cb5uo0D",
      "7x6o0Casw00D7x6o0Casw00D7x6o0Casw00D7x6o0Cb5uo0D7k800Cb5uo0D7k800Cb5uo0D7x6o0Casw00D7x6o0C",
      "asw00D7x6o0Cb5uo0D7k800Cb5uo0D7x6o0Casw00D7k800Cb5uo0D"]⟩,
  ⟨"Australia/Brisbane", [36728, 36000, 39600], .steady 36000,
    ["rggswzsBbhbss8C49pc0Bcxfk00C4h400B9d1c0C9d1c0B9q000C902o0Beeio00C64dc0B97zuo0C6hc00Bc8qo0C",
      "6hc00Bc8qo0C6hc00B"]⟩,
  ⟨"Australia/Broken_Hill", [33948, 36000, 32400, 34200, 37800], .yearly 34200 37800 .australian,
    ["rgiedt0Bt9nr0C1egqs0D97zyu0E49pc0Dcxfk00E4h400D9d1c0E9d1c0D9q000E902o0Deeio00E64dc0Dclpc0E",
      "6hc00Dc8qo0E6hc00Dc8qo0E6hc00Dc8qo0E6uao0Dc8qo0E6hc00Dc8qo0E6hc00Dc8qo0E6hc00Dc8qo0E6hc00D",
      "c8qo0E6hc00Dc8qo0E8a5c0Dasw00E6hc00Dc8qo0E6hc00Dc8qo0E6hc00Dc8qo0E779c0Db5uo0E7k800Dbitc0E",
      "7k800Dbitc0E779c0Dbitc0E6hc00Dc8qo0E6hc00Dc8qo0E6hc00Dc8qo0E6uao0Dc8qo0E6hc00Dc8qo0E6hc00D",
      "c8qo0E7x6o0Dasw00E7x6o0Dasw00E7x6o0Dasw00E7x6o0Db5uo0E7k800Db5uo0E7k800Db5uo0E7x6o0Dasw00E",
      "7x6o0Dasw00E7x6o0Db5uo0E7k800Db5uo0E7x6o0Dasw00E7k800Db5uo0E"]⟩,
  ⟨"Australia/Darwin", [31400, 32400, 34200, 37800], .steady 34200,
    ["rgiefrsB27qck8C97zyu0D49pc0Ccxfk00D4h400C9d1c0D9d1c0C9q000D902o0C"]⟩,
  ⟨"Australia/Eucla", [30928, 31500, 35100], .steady 31500,
    ["rgxzk4wBb05944C49pc0Bcxfk00C4h400B9d1c0C9d1c0Bgheyo0C6hc00B4ir9c0C6hc00B40r400C5eg00B",
      "7p9hc0C5reo0Bb5uo0C7x6o0Basw00C7x6o0B"]⟩,
  ⟨"Australia/Hobart", [35356, 36000, 39600], .yearly 36000 39600 .australian,
    ["rgtay1wBb03ee4C902o0Bb5uo0C6hc00Bc8qo0C6hc00Bbx2ao0C4h400B9d1c0C9d1c0B9q000C902o0Bc9tk00C",
      "9d1c0Basw00C6uao0Bbvs00C6uao0Bbvs00C779c0Bbvs00C64dc0Bclpc0C6hc00Bc8qo0C6hc00Bc8qo0C6hc00B",
      "c8qo0C6uao0Bc8qo0C6hc00Bc8qo0C6hc00Bc8qo0C6hc00Bc8qo0C6hc00Bc8qo0C6hc00Bc8qo0C7x6o0Bb5uo0C",
      "7k800Bb5uo0C6hc00Bc8qo0C6hc00Bc8qo0C6hc00Bbvs00C7k800Bbitc0C7k800Bbitc0C779c0Bbitc0C779c0B",
      "bitc0C7x6o0B9q000C902o0B9q000C902o0B9q000C902o0B9q000C902o0B9q000C9d1c0B9q000C902o0B9q000C",
      "902o0B9q000C902o0B9q000C902o0B7x6o0Casw00Ba2yo0C902o0B9q000C902o0B9q000C902o0B9q000C902o0B",
      "9q000C9d1c0B9d1c0C902o0Ba2yo0C"]⟩,
  ⟨"Australia/Lindeman", [35756, 36000, 39600], .steady 36000,
    ["rggsxqsBbhbs18C49pc0Bcxfk00C4h400B9d1c0C9d1c0B9q000C902o0Beeio00C64dc0B97zuo0C6hc00Bc8qo0C",
      "6hc00Bc8qo0C6hc00Bc8qo0C6uao0Bc8qo0C6hc00B"]⟩,
  ⟨"Australia/Lord_Howe", [38180, 36000, 37800, 41400, 39600], .yearly 37800 39600 .lordHowe,
    ["rgieajgB18x8f0kCc8uu0D6u7w0Cc8tg0D6h980Cc8tg0D6h980Cc8tg0D6h980Cc8tg0E777y0Cb5w20E7k6m0C",
      "biuq0E7k6m0Cbiuq0E777y0Cbiuq0E6ham0Cc8s20E6ham0Cc8s20E6ham0Cc8s20E6u9a0Cc8s20E6ham0Cc8s20E",
      "6ham0Cc8s20E7x5a0Casxe0E7x5a0Casxe0E7x5a0Casxe0E7x5a0Cb5w20E7k6m0C7x820Easum0Cb5w20E7x5a0C",
      "asxe0E7x5a0Casxe0E7x5a0Cb5w20E7k6m0Cb5w20E7x5a0Casxe0E7k6m0Cb5w20E"]⟩,
  ⟨"Australia/Melbourne", [34792, 36000, 39600], .yearly 36000 39600 .australian,
    ["rgied5kBbfqcmgC49pc0Bcxfk00C4h400B9d1c0C9d1c0B9q000C902o0Beeio00C64dc0Bclpc0C6hc00Bc8qo0C",
      "6hc00Bc8qo0C6hc00Bc8qo0C6uao0Bc8qo0C6hc00Bc8qo0C6hc00Bc8qo0C6hc00Bc8qo0C6hc00Bc8qo0C6hc00B",
      "c8qo0C6uao0Bc8qo0C6hc00Bc8qo0C6hc00Bc8qo0C6hc00Bc8qo0C779c0Bb5uo0C7k800Bb5uo0C7x6o0Bbitc0C",
      "779c0Bbitc0C779c0Bbitc0C6hc00Bc8qo0C6hc00Bc8qo0C6uao0Bc8qo0C6hc00Bc8qo0C7k800Bb5uo0C7x6o0B",
      "asw00C7x6o0Basw00C7x6o0Basw00C7x6o0Bb5uo0C7k800B7x6o0Casw00Bb5uo0C7x6o0Basw00C7x6o0Basw00C",
      "7x6o0Bb5uo0C7k800Bb5uo0C7x6o0Basw00C7k800Bb5uo0C"]⟩,
  ⟨"Australia/Perth", [27804, 28800, 32400], .steady 28800,
    ["rgxzmjoBb058scC49pc0Bcxfk00C4h400B9d1c0C9d1c0Bgheyo0C6hc00B4ir9c0C6hc00B40r400C5eg00B",
      "7p9hc0C5reo0Bb5uo0C7x6o0Basw00C7x6o0B"]⟩,
  ⟨"Australia/Sydney", [36292, 36000, 39600], .yearly 36000 39600 .australian,
    ["rgiebzwBbfqds4C49pc0Bcxfk00C4h400B9d1c0C9d1c0B9q000C902o0Beeio00C64dc0Bclpc0C6hc00Bc8qo0C",
      "6hc00Bc8qo0C6hc00Bc8qo0C6uao0Bc8qo0C6hc00Bc8qo0C6hc00Bc8qo0C6hc00Bc8qo0C6hc00Bc8qo0C6hc00B",
      "c8qo0C8a5c0Basw00C6hc00Bc8qo0C6hc00Bc8qo0C6hc00Bc8qo0C779c0Bb5uo0C7k800Bbitc0C7k800Bbitc0C",
      "779c0Bbitc0C6hc00Bc8qo0C6hc00Bc8qo0C6hc00Bc8qo0C6uao0Bc8qo0C6hc00Bc8qo0C6hc00Bc8qo0C7x6o0B",
      "asw00C7x6o0Basw00C7x6o0Basw00C7x6o0Bb5uo0C7k800B7x6o0Casw00Bb5uo0C7x6o0Basw00C7x6o0Basw00C",
      "7x6o0Bb5uo0C7k800Bb5uo0C7x6o0Basw00C7k800Bb5uo0C"]⟩]

end Zones
end Time
end Cadence
