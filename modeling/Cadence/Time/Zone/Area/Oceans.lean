/-
# Zones of the oceans

The zones named after islands of the Atlantic, the Indian and the Pacific Ocean.

Key definitions: `Zones.atlantic`, `Zones.indian`, `Zones.pacific`.
-/
import Cadence.Time.Zone.Basic

namespace Cadence
namespace Time
namespace Zones

/-- The zones named after islands of the Atlantic Ocean. -/
def atlantic : List Record := [
  ⟨"Atlantic/Azores", [-6160, -6872, -7200, -3600, 0, 3600], .yearly (-3600) 0 .european,
    ["raq53f4Bem124wC2bufw0D6zxg0C66800Dbq580C71s40Dbq580C71s40Dbq580C73ms0Dbq580C71s40Dbq580C",
      "1b2g00D8so00Cst1c0D8n400C9q000D902o0Ca2yo0D902o0Ca2yo0D8n400Cst1c0D8n400C9d1c0D9d1c0C",
      "sg2o0D9d1c0C902o0D9q000Ca2yo0D8n400C9d1c0D9d1c0C902o0D9q000Ca2yo0Db5uo0C51hc0Dbmio0C99c00D",
      "9ew00C88ao0D25p80E5reo0D3lpg0C779c0D1sqk0E6uao0D38qs0C6uao0D25p80E6hc00D38qs0C6uao0D25p80E",
      "6hc00D38qs0C8a5c0D9d1c0C9d9o0D9d1c0C9d1c0D9d1c0C9d1c0D9d1c0C9d1c0D9d1c0C9d1c0D9q000C9d1c0D",
      "9d1c0C9d1c0D9d1c0C9d1c0D9d1c0C9d1c0D9d1c0C9d1c0D9q000C9d1c0D9d1c0C9d1c0D9d1c0C9d1c0D9d1c0C",
      "9d1c0D9d1c0C9d1c0D9d1c0C9d1c0D9q000C9d1c0D9d1c0C9d1c0D9d1c0C9d1c0D9d1c0C9d1c0D8cavo0E",
      "9d1c0D9d1c0E9d1c0D9d1c0E9q000D9d1c0E9d1c0D9d1c0E9d1c0D9d1c0E9d1c0D9d1c0E9d1c0D9d1c0E9d1c0D",
      "9d1c0E9q000D9d1c0E9d1c0D9d1c0E9d1c0D4olg0E4ofw0F46000E571c0D9d1c0E9d1c0D9d1c0E9d1c0D",
      "9q000E"]⟩,
  ⟨"Atlantic/Bermuda", [-15558, -11958, -14400, -10800], .yearly (-14400) (-10800) .northAmerican,
    ["rs31lc6B95jw0Aa16s0B7yyk0A5w74c0C69z5ruDeefw0C7x9g0Dbiqk0C6udg0Dc8nw0C6hes0Dc8nw0Cst440D",
      "64ak0Ccyqs0D5ed80Cdbpg0D5ed80Cdoo40D51ek0Cdoo40D51ek0Cdoo40D5ed80C1xuw40D7x3w0C94r9g0D",
      "9cyk0C9d440D9cyk0C9d440D9px80C905g0D9px80C9d440D9cyk0C9d440D9cyk0C9d440D9cyk0C9d440D9cyk0C",
      "9d440D9px80C905g0D9px80C9d440D9cyk0C9d440D9cyk0C9d440D9cyk0C8a840Dafuk0C8a840Dast80C7x9g0D",
      "ast80C7x9g0Dast80C8a840Dafuk0C8a840Dafuk0C8a840Dast80C7x9g0Dast80C7x9g0Dast80C8a840Dafuk0C",
      "8a840Dafuk0C8a840Dafuk0C8a840Dast80C7x9g0Dast80C7x9g0Dast80C8a840Dafuk0C8a840Dafuk0C8a840D",
      "ast80C7x9g0Dast80C7x9g0Dast80C6udg0D"]⟩,
  ⟨"Atlantic/Canary", [-3696, -3600, 0, 3600], .yearly 0 3600 .european,
    ["run45ioBctvupcChhq7s0D905g0C9d1c0D9d1c0C9d1c0D9d1c0C9d1c0D9d1c0C9d1c0D9q000C9d1c0D9d1c0C",
      "9d1c0D9d1c0C9d1c0D9d1c0C9d1c0D9d1c0C9d1c0D9d1c0C9d1c0D9q000C9d1c0D9d1c0C9d1c0D9d1c0C9d1c0D",
      "9d1c0C9d1c0D9d1c0C9d1c0D9d1c0C9q000D"]⟩,
  ⟨"Atlantic/Cape_Verde", [-5644, -7200, -3600], .steady (-3600),
    ["rpc65k0Bg06lc0C1mn180Bfpqwc0C"]⟩,
  ⟨"Atlantic/Faroe", [-1624, 0, 3600], .yearly 0 3600 .european,
    ["rn9izx4B127keuwC9d1c0B9d1c0C9d1c0B9d1c0C9d1c0B9d1c0C9q000B9d1c0C9d1c0B9d1c0C9d1c0B9d1c0C",
      "9d1c0B9d1c0C9d1c0B9d1c0C9d1c0B9d1c0C9q000B9d1c0C9d1c0B9d1c0C9d1c0B9d1c0C9d1c0B9d1c0C9d1c0B",
      "9d1c0C9d1c0B9q000C"]⟩,
  ⟨"Atlantic/Madeira", [-4056, -3600, 0, 3600], .yearly 0 3600 .european,
    ["rpc62s0B2bufw0C6zxg0B66800Cbq580B71s40Cbq580B71s40Cbq580B73ms0Cbq580B71s40Cbq580B1b2g00C",
      "8so00Bst1c0C8n400B9q000C902o0Ba2yo0C902o0Ba2yo0C8n400Bst1c0C8n400B9d1c0C9d1c0Bsg2o0C9d1c0B",
      "902o0C9q000Ba2yo0C8n400B9d1c0C9d1c0B902o0C9q000Ba2yo0Cb5uo0B51hc0Cbmio0B99c00C9ew00B88ao0C",
      "25p80D5reo0C3lpg0B779c0C1sqk0D6uao0C38qs0B6uao0C25p80D6hc00C38qs0B6uao0C25p80D6hc00C38qs0B",
      "8a5c0C9d1c0B9d9o0C9d1c0B9d1c0C9d1c0B9d1c0C9d1c0B9d1c0C9d1c0B9d1c0C9q000B9d1c0C9d1c0B9d1c0C",
      "9d1c0B9d1c0C9d1c0B9d1c0C9d1c0B9d1c0C9q000B9d1c0C9d1c0B9d1c0C9d1c0B9d1c0C9d1c0B9d1c0C9d1c0B",
      "9d1c0C9d1c0B9d1c0C9q000B9d1c0C9d1c0B9d1c0C9d1c0B9d1c0C9d1c0B9d1c0C8cnuc0D902o0C9d1c0D",
      "9d1c0C9d1c0D9q000C9d1c0D9d1c0C9d1c0D9d440C9d1c0D9d1c0C9d1c0D9d1c0C9d1c0D9d1c0C9d1c0D9q000C",
      "9d1c0D9d1c0C9d1c0D9d1c0C9d1c0D9d1c0C9d1c0D9d1c0C9d1c0D9d1c0C9q000D"]⟩,
  ⟨"Atlantic/South_Georgia", [-8768, -7200], .steady (-7200),
    ["rduwerkB"]⟩,
  ⟨"Atlantic/Stanley", [-13884, -14400, -10800, -7200], .steady (-10800),
    ["rpfts1oBdbvxqcC8zzw0B9q2s0C8zzw0Ba31g0C8zzw0B9q2s0C8zzw0B9q2s0C8zzw0B9q2s0C4xp80Bl1pus0C",
      "7k580Db5rw0C77c40Dbiqk0Cid6s0B7kas0Cb5rw0B7kas0Cb5rw0B7kas0Cb5rw0B7kas0Cbiqk0B77c40Cbiqk0B",
      "7kas0Cb5rw0B7kas0Cb5rw0B7kas0Cb5rw0B7kas0Cb5rw0B7kas0Cbiqk0B7kas0Cb5rw0B7kas0Cb5rw0B7kas0C",
      "b5rw0B7kas0Cb5rw0B7kas0Cb5xg0B77c40Cbvp80B6udg0Cbvp80B77c40Cbiqk0B77c40Cbiqk0B77c40Cbiqk0B",
      "77c40Cbiqk0B77c40Cbvp80B77c40Cbiqk0B77c40Cbiqk0B77c40C"]⟩]

/-- The zones named after islands of the Indian Ocean. -/
def indian : List Record := [
  ⟨"Indian/Chagos", [17380, 18000, 21600], .steady 21600,
    ["rmq8598B1ag64usC"]⟩,
  ⟨"Indian/Maldives", [17640, 18000], .steady 18000,
    ["see0ae0B"]⟩,
  ⟨"Indian/Mauritius", [13800, 14400, 18000], .steady 14400,
    ["rmq880oB13jnu7cC8bx80Bdd0wc0C7x3w0B"]⟩]

/-- The zones named after islands of the Pacific Ocean. -/
def pacific : List Record := [
  ⟨"Pacific/Apia", [45184, -41216, -41400, -39600, -36000, 50400, 46800], .steady 46800,
    ["rf5zjswB9nfeo0Ckcrmt4Dvp3la0E9odo0D902o0E4zbk0F4qog0G9d1c0F9q000G902o0F9q000G902o0F9q000G",
      "902o0F9q000G902o0F9q000G902o0F9q000G9d1c0F9q000G902o0F9q000G902o0F9q000G"]⟩,
  ⟨"Pacific/Auckland", [41944, 41400, 45000, 43200, 46800], .yearly 43200 46800 .newZealand,
    ["r2t8iawBusn9z4C64ak0Bbiw40D7x5a0Basxe0D7x5a0Basxe0D7x5a0Basxe0D8a3y0Bafyq0D8a3y0Bafyq0D",
      "afvy0B7x820Dasum0B7x820Dasum0B7x820Dasum0B7x820Dasum0B7x820Db5ta0B7k9e0Db5ta0B7x820D",
      "hsl2m0E5reo0Dclpc0E6uao0Dc8qo0E6hc00Dc8qo0E6hc00Dc8qo0E6hc00Dc8qo0E6hc00Dc8qo0E6hc00D",
      "c8qo0E6uao0Dc8qo0E6hc00Dc8qo0E6hc00Dc8qo0E6hc00Dc8qo0E6hc00Dc8qo0E6hc00Dc8qo0E6uao0Dc8qo0E",
      "6hc00Db5uo0E8a5c0Dafxc0E8a5c0Dafxc0E8a5c0Dafxc0E8n400Da2yo0E8n400Da2yo0E8n400Da2yo0E8n400D",
      "afxc0E8a5c0Dafxc0E8a5c0Dafxc0E8n400Da2yo0E8n400Da2yo0E8n400Dafxc0E8a5c0Dafxc0E8a5c0Dafxc0E",
      "8n400Da2yo0E8n400Da2yo0E8n400Da2yo0E8n400Da2yo0E"]⟩,
  ⟨"Pacific/Bougainville", [37336, 35312, 36000, 32400, 39600], .steady 39600,
    ["r8myluwB7tuc88Cosc24wD1n05g0C1071c40E"]⟩,
  ⟨"Pacific/Chatham", [44028, 44100, 45900, 49500], .yearly 45900 49500 .newZealand,
    ["r2t8gp0B149qqm0Cf1tq90D5reo0Cclpc0D6uao0Cc8qo0D6hc00Cc8qo0D6hc00Cc8qo0D6hc00Cc8qo0D6hc00C",
      "c8qo0D6hc00Cc8qo0D6uao0Cc8qo0D6hc00Cc8qo0D6hc00Cc8qo0D6hc00Cc8qo0D6hc00Cc8qo0D6hc00Cc8qo0D",
      "6uao0Cc8qo0D6hc00Cb5uo0D8a5c0Cafxc0D8a5c0Cafxc0D8a5c0Cafxc0D8n400Ca2yo0D8n400Ca2yo0D8n400C",
      "a2yo0D8n400Cafxc0D8a5c0Cafxc0D8a5c0Cafxc0D8n400Ca2yo0D8n400Ca2yo0D8n400Cafxc0D8a5c0Cafxc0D",
      "8a5c0Cafxc0D8n400Ca2yo0D8n400Ca2yo0D8n400Ca2yo0D8n400Ca2yo0D"]⟩,
  ⟨"Pacific/Easter", [-26248, -25200, -21600, -18000], .yearly (-21600) (-18000) .chilean,
    ["s04i6x4BivmeuwC7k580Bc8tg0C6h980Ba31g0C7x3w0Basys0C7x3w0Bb5xg0C7k580Bag040C8a2k0Bb5xg0C",
      "7k580Bb5xg0C7x3w0Basys0C7x3w0Basys0C7x3w0Bb5xg0C7k580Bb5xg0C7k580Bb5xg0C7x3w0Basys0Ciq2o0D",
      "7x3w0Casys0D7x3w0Cb5xg0D7k580Cb5xg0D7k580Cb5xg0D9cyk0C9d440D7x3w0Casys0D7x3w0Cb5xg0D7k580C",
      "9q2s0D8zzw0Cb5xg0D7x3w0Casys0D7x3w0Casys0D7x3w0Casys0D7x3w0Cb5xg0D7k580Cb5xg0D8n180Ca31g0D",
      "7x3w0Ca31g0D9px80C9q2s0D7x3w0Cb5xg0D7k580Cb5xg0D7k580Cb5xg0D7k580Cb5xg0D7x3w0Casys0D7x3w0C",
      "asys0D7x3w0Cb5xg0D7k580Cb5xg0D8n180Ca31g0D7x3w0Casys0D8zzw0C9q2s0Dast80C5eis0Dcyl80C6hes0D",
      "c8nw0C6udg0Dbvp80C6udg0Dvonw0C4olg0De1h80C4olg0De1h80C4olg0Dc8nw0C7x9g0Dast80C7x9g0Dast80C",
      "7x9g0Dast80C8a840D"]⟩,
  ⟨"Pacific/Efate", [40396, 39600, 43200], .steady 39600,
    ["rpcrctwBwbu364C51hc0B4y8qs0C9cyk0B9d440C9cyk0B9q2s0C8zzw0B9q2s0C9cyk0B9d440C9cyk0B9d440C",
      "9cyk0B9d440C9cyk0B9d440C9cyk0B9q2s0C64ak0Be1ms0C4ofw0B"]⟩,
  ⟨"Pacific/Fakaofo", [-41096, -39600, 46800], .steady 46800,
    ["rjljzpkB1lxe1igC"]⟩,
  ⟨"Pacific/Fiji", [42944, 43200, 46800], .steady 43200,
    ["rrbuk74B17bs00wC64dc0Bcyo00C5reo0B53a5c0C64dc0Basw00C6uao0Bbvs00C4oio0Be1k00C4oio0Beeio0C",
      "4bh80Berk40C3ylc0Berhc0C3ylc0Bf4g00C3lmo0Bf4g00C3lmo0Bf4g00C3lmo0Bfheo0C38o00Bhn6o0C",
      "1fuo0B"]⟩,
  ⟨"Pacific/Galapagos", [-21504, -18000, -21600], .steady (-21600),
    ["rz96b9cBspdryoC3lsas0B3jp80C"]⟩,
  ⟨"Pacific/Gambier", [-32388, -32400], .steady (-32400),
    ["rpqa3noB"]⟩,
  ⟨"Pacific/Guadalcanal", [38388, 39600], .steady 39600,
    ["rpq8l1oB"]⟩,
  ⟨"Pacific/Guam", [-51660, 34740, 36000, 32400, 39600], .steady 36000,
    ["qqdefv0Bt83xc0Cld6pp0D1dl9g0C7s1k40Etxp80C3frms0EqdrpoC7kgacE3ljw0Cc8tg0E6u7w0Cbvus0E",
      "6u7w0C16uo40E3ljw0C16aas0E4ivxoCcls2cE6h980C"]⟩,
  ⟨"Pacific/Honolulu", [-37886, -37800, -34200, -36000], .steady (-36000),
    ["rh09l8eBjgnatmC13l00B4jvb00C1wd180Bvotg0D"]⟩,
  ⟨"Pacific/Kanton", [0, -43200, -39600, 46800], .steady 46800,
    ["s2qd9c0Blypqo0C7yiqk0D"]⟩,
  ⟨"Pacific/Kiritimati", [-37760, -38400, -36000, 50400], .steady 50400,
    ["rjljx4wB153iz5sC7yirhcD"]⟩,
  ⟨"Pacific/Kosrae", [-47284, 39116, 39600, 32400, 36000, 43200], .steady 39600,
    ["qqdechgBt83xc0C76a4ykD29hhk0C9cmd40E27sas0D29fk40Ccm2540Ff9l3w0C"]⟩,
  ⟨"Pacific/Kwajalein", [40160, 39600, 36000, 32400, -43200, 43200], .steady 43200,
    ["rjli90gBise0fkC27sas0D1hjus0Bddxug0Ecgv6k0F"]⟩,
  ⟨"Pacific/Marquesas", [-33480, -34200], .steady (-34200),
    ["rpqa4i0B"]⟩,
  ⟨"Pacific/Nauru", [40060, 41400, 32400, 43200], .steady 43200,
    ["ru1zyf8Bba66ysC1kwca0Bhfzda0D"]⟩,
  ⟨"Pacific/Niue", [-40780, -40800, -39600], .steady (-39600),
    ["samlm4sB63yiokC"]⟩,
  ⟨"Pacific/Norfolk", [40312, 40320, 41400, 45000, 39600, 43200], .yearly 39600 43200 .australian,
    ["rjli8w8Bq3einsCcfj8q0D6hc00Cl6nk00E239aq0F"]⟩,
  ⟨"Pacific/Noumea", [39948, 39600, 43200], .steady 39600,
    ["rpcrd6cBye0ixoC4dbw0Becqs0C4f6k0B99p700C4oio0B"]⟩,
  ⟨"Pacific/Pago_Pago", [45432, -40968, -39600], .steady (-39600),
    ["rf5zjm0B9nfeo0C"]⟩,
  ⟨"Pacific/Palau", [-54124, 32276, 32400], .steady 32400,
    ["qqdehrgBt83xc0C"]⟩,
  ⟨"Pacific/Pitcairn", [-31220, -30600, -28800], .steady (-28800),
    ["rjljs38B1esg26sC"]⟩,
  ⟨"Pacific/Port_Moresby", [35320, 35312, 36000], .steady 36000,
    ["r8mynewB7tuao8C"]⟩,
  ⟨"Pacific/Rarotonga", [48056, -38344, -37800, -34200, -36000], .steady (-36000),
    ["rj2f1l4Brk6io0Cdlv68wD5rbw0Ec8s20D6ham0Ec8s20D6ham0Ec8s20D6u9a0Ec8s20D6ham0Ec8s20D6ham0E",
      "c8s20D6ham0Ec8s20D6ham0Ec8s20D6ham0Ec8s20D6u9a0Ec8s20D6ham0Ec8s20D6ham0Ec8s20D6ham0E"]⟩,
  ⟨"Pacific/Tahiti", [-35896, -36000], .steady (-36000),
    ["rpqa6d4B"]⟩,
  ⟨"Pacific/Tarawa", [41524, 43200], .steady 43200,
    ["rjli7ykB"]⟩,
  ⟨"Pacific/Tongatapu", [44352, 44400, 46800, 50400], .steady 46800,
    ["s6x5xs0B7znjyoCk8amdcD8fpc0Cbvs00D4bh80Ceelg0D4bh80C7pmis0D3lmo0C"]⟩]

end Zones
end Time
end Cadence
