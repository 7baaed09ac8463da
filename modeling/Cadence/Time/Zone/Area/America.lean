/-
# Zones of the Americas

The zones named after places in the Americas.

Key definitions: `Zones.america`.
-/
import Cadence.Time.Zone.Basic

namespace Cadence
namespace Time
namespace Zones

/-- The zones of this area. -/
def america : List Record := [
  ⟨"America/Adak", [44002, -42398, -39600, -36000, -32400],
    .yearly (-36000) (-32400) .northAmerican,
    ["r29pqs1Bh4z1xpCln70qaD1wd180Ccawis0D9cyk0C9d440D9cyk0C9d440D9px80C9d440D9cyk0C9d440D9cyk0C",
      "3lpg0Df4d80C64g40Dclmk0C9d440D9px80C905g0D9px80C9d440D9cyk0C9d440D9cyk0C9d440D9cyk0C9d440D",
      "9cyk0C9d440D9px80C905g0Dj2yk0E9cyk0D9d440E9cyk0D9d440E9cyk0D8a840Eafuk0D8a840East80D7x9g0E",
      "ast80D7x9g0East80D8a840Eafuk0D8a840Eafuk0D8a840East80D7x9g0East80D7x9g0East80D8a840Eafuk0D",
      "8a840Eafuk0D8a840Eafuk0D8a840East80D7x9g0East80D7x9g0East80D8a840Eafuk0D8a840Eafuk0D8a840E",
      "ast80D7x9g0East80D7x9g0East80D6udg0E"]⟩,
  ⟨"America/Anchorage", [50424, -35976, -36000, -32400, -28800],
    .yearly (-32400) (-28800) .northAmerican,
    ["r29pqs1Bh4ywzbCln72woD1wd180Ccawis0D9cyk0C9d440D9cyk0C9d440D9px80C9d440D9cyk0C9d440D9cyk0C",
      "3lpg0Df4d80C64g40Dclmk0C9d440D9px80C905g0D9px80C9d440D9cyk0C9d440D9cyk0C9d440D9cyk0C9d440D",
      "9cyk0C9d440D9px80C905g0Dj2yk0E9cyk0D9d440E9cyk0D9d440E9cyk0D8a840Eafuk0D8a840East80D7x9g0E",
      "ast80D7x9g0East80D8a840Eafuk0D8a840Eafuk0D8a840East80D7x9g0East80D7x9g0East80D8a840Eafuk0D",
      "8a840Eafuk0D8a840Eafuk0D8a840East80D7x9g0East80D7x9g0East80D8a840Eafuk0D8a840Eafuk0D8a840E",
      "ast80D7x9g0East80D7x9g0East80D6udg0E"]⟩,
  ⟨"America/Araguaina", [-11568, -10800, -7200], .steady (-10800),
    ["rqdry9cB99k8moC9a9c0B9io40C99980B8p65g0C6zuo0Bbs2o0C67zw0Bcjxg0C69uk0Bcjxg0C4ml80B5mf440C",
      "49mk0Bhaas0C33180Bcjxg0C4ml80Bcls40C66580Bcls40C67zw0B981s40C6u7w0Bbiw40C5rbw0Bd0lg0C",
      "5ed80Bcyqs0C5ed80Bdbpg0C64ak0B2yl440C64ak0Bc8tg0C6u7w0Bbxpg0C7iak0Bbiw40C6u7w0Bbiw40C",
      "7k580Bbiw40C6u7w0Bc8tg0C6h980Bdbpg0C5ed80B51udg0C64ak0B"]⟩,
  ⟨"America/Argentina/Buenos_Aires", [-14028, -15408, -14400, -10800, -7200], .steady (-10800),
    ["rgdn6toBdb2bqcC5iv8k0D67zw0Ca4w40D73h80Ccls40D66580Ccls40D66580Ccls40D66580Ccls40D67zw0C",
      "cls40D66580Ccls40D66580Ccls40D66580Ccls40D67zw0C6a040Dhy7w0C6a040Dxovw0C3uys0D18nbw0C",
      "b0dg0D8ve2k0C3uys0D3yik0Cbqas0D71mk0Cbqas0D71mk0Cbqas0D8ovw0C9d440D9px80C9d440D9cyk0C",
      "9d440D28t6k0E51ek0D7m2qs0E4tzw0Dbiw40E776k0Dbvus0E6u7w0Dbvus0E6u7w0Dbvus0E776k0D7qcg40E",
      "3yik0Db5xg0E7k580D"]⟩,
  ⟨"America/Argentina/Catamarca", [-15788, -15408, -14400, -10800, -7200], .steady (-10800),
    ["rgdn86kBdb2adgC5iv8k0D67zw0Ca4w40D73h80Ccls40D66580Ccls40D66580Ccls40D66580Ccls40D67zw0C",
      "cls40D66580Ccls40D66580Ccls40D66580Ccls40D67zw0C6a040Dhy7w0C6a040Dxovw0C3uys0D18nbw0C",
      "b0dg0D8ve2k0C3uys0D3yik0Cbqas0D71mk0Cbqas0D71mk0Cbqas0D8ovw0C9d440D9px80C9d440D9cyk0C",
      "9d440D28t6k0E51ek0D7m2qs0E4tzw0Dbiw40E776k0Dbvus0E6u7w0Cbvxk0E6u540Dbvus0E776k0D5v42s0C",
      "z9g0D1u93w0E3yik0D"]⟩,
  ⟨"America/Argentina/Cordoba", [-15408, -14400, -10800, -7200], .steady (-10800),
    ["rtopik0B5iv8k0C67zw0Ba4w40C73h80Bcls40C66580Bcls40C66580Bcls40C66580Bcls40C67zw0Bcls40C",
      "66580Bcls40C66580Bcls40C66580Bcls40C67zw0B6a040Chy7w0B6a040Cxovw0B3uys0C18nbw0Bb0dg0C",
      "8ve2k0B3uys0C3yik0Bbqas0C71mk0Bbqas0C71mk0Bbqas0C8ovw0B9d440C9px80B9d440C9cyk0B9d440C",
      "28t6k0D51ek0C7m2qs0D4tzw0Cbiw40D776k0Cbvus0D6u7w0Bbvxk0D6u540Cbvus0D776k0C7qcg40D3yik0C",
      "b5xg0D7k580C"]⟩,
  ⟨"America/Argentina/Jujuy", [-15672, -15408, -14400, -10800, -7200], .steady (-10800),
    ["rgdn83cBdb2agoC5iv8k0D67zw0Ca4w40D73h80Ccls40D66580Ccls40D66580Ccls40D66580Ccls40D67zw0C",
      "cls40D66580Ccls40D66580Ccls40D66580Ccls40D67zw0C6a040Dhy7w0C6a040Dxovw0C3uys0D18nbw0C",
      "b0dg0D8ve2k0C3uys0D3yik0Cbqas0D71mk0Cbqas0D71mk0Cbqas0D8ovw0C9d440D9px80C9d440D9cyk0C",
      "9d440D28t6k0E51ek0D7m2qs0E4tzw0Dbiw40E776k0Cc8w80D776k0Cag040E7k2g0Dbvus0E776k0D7qcg40E",
      "3yik0D"]⟩,
  ⟨"America/Argentina/La_Rioja", [-16044, -15408, -14400, -10800, -7200], .steady (-10800),
    ["rgdn8doBdb2a6cC5iv8k0D67zw0Ca4w40D73h80Ccls40D66580Ccls40D66580Ccls40D66580Ccls40D67zw0C",
      "cls40D66580Ccls40D66580Ccls40D66580Ccls40D67zw0C6a040Dhy7w0C6a040Dxovw0C3uys0D18nbw0C",
      "b0dg0D8ve2k0C3uys0D3yik0Cbqas0D71mk0Cbqas0D71mk0Cbqas0D8ovw0C9d440D9px80C9d440D9cyk0C",
      "9d440D28t6k0E51ek0D7m2qs0E4tzw0Dbiw40E776k0Dbvus0E6qik0C3g880D8jbw0E6u7w0Dbvus0E776k0D",
      "5v42s0Cz9g0D1u93w0E3yik0D"]⟩,
  ⟨"America/Argentina/Mendoza", [-16516, -15408, -14400, -10800, -7200], .steady (-10800),
    ["rgdn8qsBdb29t8C5iv8k0D67zw0Ca4w40D73h80Ccls40D66580Ccls40D66580Ccls40D66580Ccls40D67zw0C",
      "cls40D66580Ccls40D66580Ccls40D66580Ccls40D67zw0C6a040Dhy7w0C6a040Dxovw0C3uys0D18nbw0C",
      "b0dg0D8ve2k0C3uys0D3yik0Cbqas0D71mk0Cbqas0D71mk0Cbqas0D8ovw0C9d440D9px80C9d440D9cyk0C",
      "9d440D28t6k0E51ek0D7m2qs0E4tzw0Dbiw40E776k0Cbktk0D71mk0Cbqas0D73h80Cbvus0E773s0D5unes0C",
      "6hes0D1p7mk0E3yik0D"]⟩,
  ⟨"America/Argentina/Rio_Gallegos", [-16612, -15408, -14400, -10800, -7200], .steady (-10800),
    ["rgdn8tgBdb29qkC5iv8k0D67zw0Ca4w40D73h80Ccls40D66580Ccls40D66580Ccls40D66580Ccls40D67zw0C",
      "cls40D66580Ccls40D66580Ccls40D66580Ccls40D67zw0C6a040Dhy7w0C6a040Dxovw0C3uys0D18nbw0C",
      "b0dg0D8ve2k0C3uys0D3yik0Cbqas0D71mk0Cbqas0D71mk0Cbqas0D8ovw0C9d440D9px80C9d440D9cyk0C",
      "9d440D28t6k0E51ek0D7m2qs0E4tzw0Dbiw40E776k0Dbvus0E6u7w0Dbvus0E6u7w0Dbvus0E776k0D5v42s0C",
      "z9g0D1u93w0E3yik0D"]⟩,
  ⟨"America/Argentina/Salta", [-15700, -15408, -14400, -10800, -7200], .steady (-10800),
    ["rgdn844Bdb2afwC5iv8k0D67zw0Ca4w40D73h80Ccls40D66580Ccls40D66580Ccls40D66580Ccls40D67zw0C",
      "cls40D66580Ccls40D66580Ccls40D66580Ccls40D67zw0C6a040Dhy7w0C6a040Dxovw0C3uys0D18nbw0C",
      "b0dg0D8ve2k0C3uys0D3yik0Cbqas0D71mk0Cbqas0D71mk0Cbqas0D8ovw0C9d440D9px80C9d440D9cyk0C",
      "9d440D28t6k0E51ek0D7m2qs0E4tzw0Dbiw40E776k0Dbvus0E6u7w0Cbvxk0E6u540Dbvus0E776k0D7qcg40E",
      "3yik0D"]⟩,
  ⟨"America/Argentina/San_Juan", [-16444, -15408, -14400, -10800, -7200], .steady (-10800),
    ["rgdn8osBdb29v8C5iv8k0D67zw0Ca4w40D73h80Ccls40D66580Ccls40D66580Ccls40D66580Ccls40D67zw0C",
      "cls40D66580Ccls40D66580Ccls40D66580Ccls40D67zw0C6a040Dhy7w0C6a040Dxovw0C3uys0D18nbw0C",
      "b0dg0D8ve2k0C3uys0D3yik0Cbqas0D71mk0Cbqas0D71mk0Cbqas0D8ovw0C9d440D9px80C9d440D9cyk0C",
      "9d440D28t6k0E51ek0D7m2qs0E4tzw0Dbiw40E776k0Dbvus0E6qik0C3g880D8jbw0E6u7w0Dbvus0E776k0D",
      "5v2840C2txg0D1sgak0E3yik0D"]⟩,
  ⟨"America/Argentina/San_Luis", [-15924, -15408, -14400, -10800, -7200], .steady (-10800),
    ["rgdn8acBdb2a9oC5iv8k0D67zw0Ca4w40D73h80Ccls40D66580Ccls40D66580Ccls40D66580Ccls40D67zw0C",
      "cls40D66580Ccls40D66580Ccls40D66580Ccls40D67zw0C6a040Dhy7w0C6a040Dxovw0C3uys0D18nbw0C",
      "b0dg0D8ve2k0C3uys0D3yik0Cbqas0D71mk0Cbqas0D71mk0Cbqas0D8ovw0C9d440D9px80C9d440D9cyk0C",
      "9d440D28t6k0E51ek0D7m2qs0E4tzw0Dbiw40E7pp80Cb2aw0D71mk0C4qg40D6s8ik0C2txg0D1sgak0E14nw0D",
      "2gys0Cb5xg0D7k580Cb5xg0D"]⟩,
  ⟨"America/Argentina/Tucuman", [-15652, -15408, -14400, -10800, -7200], .steady (-10800),
    ["rgdn82sBdb2ah8C5iv8k0D67zw0Ca4w40D73h80Ccls40D66580Ccls40D66580Ccls40D66580Ccls40D67zw0C",
      "cls40D66580Ccls40D66580Ccls40D66580Ccls40D67zw0C6a040Dhy7w0C6a040Dxovw0C3uys0D18nbw0C",
      "b0dg0D8ve2k0C3uys0D3yik0Cbqas0D71mk0Cbqas0D71mk0Cbqas0D8ovw0C9d440D9px80C9d440D9cyk0C",
      "9d440D28t6k0E51ek0D7m2qs0E4tzw0Dbiw40E776k0Dbvus0E6u7w0Cbvxk0E6u540Dbvus0E776k0D5v42s0C",
      "mas0D1um2k0E3yik0Db5xg0E7k580D"]⟩,
  ⟨"America/Argentina/Ushuaia", [-16392, -15408, -14400, -10800, -7200], .steady (-10800),
    ["rgdn8ncBdb29woC5iv8k0D67zw0Ca4w40D73h80Ccls40D66580Ccls40D66580Ccls40D66580Ccls40D67zw0C",
      "cls40D66580Ccls40D66580Ccls40D66580Ccls40D67zw0C6a040Dhy7w0C6a040Dxovw0C3uys0D18nbw0C",
      "b0dg0D8ve2k0C3uys0D3yik0Cbqas0D71mk0Cbqas0D71mk0Cbqas0D8ovw0C9d440D9px80C9d440D9cyk0C",
      "9d440D28t6k0E51ek0D7m2qs0E4tzw0Dbiw40E776k0Dbvus0E6u7w0Dbvus0E6u7w0Dbvus0E776k0D5v0dg0C",
      "12ys0D1u93w0E3yik0D"]⟩,
  ⟨"America/Asuncion", [-13840, -14400, -10800], .steady (-10800),
    ["rznodcgBldwofkCs4vw0Bs6w40C7tek0Bb0dg0C7rjw0Bb0dg0C7rjw0Bb0dg0C9cyk0B9eys0C9et80B9eys0C",
      "9cyk0B9eys0C9cyk0B9eys0C9cyk0B9eys0C9et80B9eys0C9cyk0B9eys0C9cyk0B9eys0C9cyk0B9eys0C9et80B",
      "9eys0C9cyk0Bahus0C8a2k0B9eys0C9cyk0B9o840C7k580Bb7s40C93p80B9gtg0C7nuk0Bb42s0C7lzw0Bb5xg0C",
      "7tek0Bb9ms0C776k0Bbiw40C7k580Bb5xg0C7x3w0Basys0C7x3w0Basys0C7x3w0Bb5xg0C9cyk0B7kas0Cb5rw0B",
      "7x9g0Cast80Ba31g0C7k580Bb5xg0C7k580Bb5xg0C7k580Bbiw40C776k0Bbiw40C776k0Bbiw40C8zzw0B905g0C",
      "9px80B905g0C9px80B9d440C8n180Ba31g0C8n180Ba31g0C8n180Ba31g0C8zzw0B9q2s0C8zzw0B9q2s0C8zzw0B",
      "a31g0C8n180Ba31g0C8n180Ba31g0C8zzw0B9q2s0C8zzw0B9q2s0C8zzw0B9q2s0C8zzw0Ba31g0C"]⟩,
  ⟨"America/Bahia", [-9244, -10800, -7200], .steady (-10800),
    ["rqdrwgsB99kaf8C9a9c0B9io40C99980B8p65g0C6zuo0Bbs2o0C67zw0Bcjxg0C69uk0Bcjxg0C4ml80B5mf440C",
      "49mk0Bhaas0C33180Bcjxg0C4ml80Bcls40C66580Bcls40C67zw0B981s40C6u7w0Bbiw40C5rbw0Bd0lg0C",
      "5ed80Bcyqs0C5ed80Bdbpg0C64ak0Bcyqs0C64ak0Bcls40C5rbw0Bdbpg0C51ek0Bdbpg0C6h980Bc8tg0C6h980B",
      "c8tg0C64ak0Bc8tg0C6u7w0Bbxpg0C7iak0Bbiw40C6u7w0Bbiw40C7k580Bbiw40C6u7w0Bc8tg0C6h980Bdbpg0C",
      "5ed80B4irc40C6u7w0B"]⟩,
  ⟨"America/Bahia_Banderas", [-25260, -25200, -21600, -18000], .steady (-21600),
    ["ruk3cs0B2u5s00C1si580B8jhg0C7x3w0B9eys0C591h80Bs5qoc0Cafuk0B8a840Cafuk0B8a840Cafuk0B8a840C",
      "ast80B7x9g0Cast80B9q2s0C7k580B9q2s0Cafuk0B8a840Cafuk0B8a840Cast80B7x9g0Cast80B7x9g0Cast80B",
      "7x9g0Cast80B8a840Cafuk0B8a840Cafuk0B8a840Dasqg0C7x9g0Dast80C7x9g0Dast80C8a840Dafuk0C8a840D",
      "afuk0C8a840Dafuk0C8a840Dast80C7x9g0Dast80C7x9g0Dast80C8a840Dafuk0C8a840Dafuk0C8a840Dast80C",
      "7x9g0Dast80C"]⟩,
  ⟨"America/Barbados", [-14309, -14400, -10800, -12600], .steady (-14400),
    ["rp5oz1hBfzq06jC6w840Bcjrw0C6hes0Bb7mk0D7ves0Bh3dpc0C5rbw0Ba31g0C8n180Ba31g0C8n180Bag040C",
      "84ik0B"]⟩,
  ⟨"America/Belem", [-11636, -10800, -7200], .steady (-10800),
    ["rqdryb8B99k8ksC9a9c0B9io40C99980B8p65g0C6zuo0Bbs2o0C67zw0Bcjxg0C69uk0Bcjxg0C4ml80B5mf440C",
      "49mk0Bhaas0C33180Bcjxg0C4ml80Bcls40C66580Bcls40C67zw0B981s40C6u7w0Bbiw40C5rbw0Bd0lg0C",
      "5ed80B"]⟩,
  ⟨"America/Belize", [-21168, -21600, -19800, -18000], .steady (-21600),
    ["rpguz00B3edkc0C6ham0Bc8s20C6u9a0Bbvte0C6u9a0Bbvte0C6u9a0Bc8s20C6ham0Bc8s20C6ham0Bc8s20C",
      "6u9a0Bbvte0C6u9a0Bbvte0C6u9a0Bbvte0C6u9a0Bc8s20C6ham0Bc8s20C6ham0Bc8s20C6u9a0Bbvte0C6u9a0B",
      "bvte0C6u9a0Bc8s20C6ham0Bc8s20C6ham0Bc8s20C6ham0Bc8s20C6u9a0Bbvte0C6u9a0Bbvte0C6u9a0Bc8s20C",
      "6ham0Bc8s20C6ham0Bc8s20C6u9a0B6uc20D1t67w0Bxulg0C6u9a0Bbvte0C6u9a0Bbvte0C6u9a0Bc8s20C",
      "6ham0Bc8s20C6ham0Bc8s20C6u9a0Bbvte0C6u9a0Bbvte0C6u9a0Bbvte0C6u9a0Bc8s20C6ham0Bc8s20C6ham0B",
      "c8s20C6u9a0Bbvte0C6u9a0Bbvte0C6u9a0Bc8s20C6ham0Bc8s20C6ham0Bc8s20C6ham0Bc8s20C6u9a0Bbvte0C",
      "6u9a0Bbvte0C6u9a0Bc8s20C6ham0B319de0D3e580B4mcys0D2vmk0B"]⟩,
  ⟨"America/Boa_Vista", [-14560, -14400, -10800], .steady (-14400),
    ["rqds0kgB99k93kC9a9c0B9io40C99980B8p65g0C6zuo0Bbs2o0C67zw0Bcjxg0C69uk0Bcjxg0C4ml80B5mf440C",
      "49mk0Bhaas0C33180Bcjxg0C4ml80Bcls40C66580Bcls40C67zw0B981s40C6u7w0Bbiw40C5rbw0Bd0lg0C",
      "5ed80B62xk40C7k580Bbiw40Ccvw0B"]⟩,
  ⟨"America/Bogota", [-17776, -18000, -14400], .steady (-18000),
    ["rqujsdsB14f1hi8Ceefw0B"]⟩,
  ⟨"America/Boise", [-27889, -28800, -25200, -21600], .yearly (-25200) (-21600) .northAmerican,
    ["ranx0w0Bhxltk0Cast80B7x9g0Cast80B1um840C9s7jw0D1wd180Cb9gdg0D9cyk0C9d440D9cyk0C9d440D",
      "9cyk0C9d440D9cyk0C9d440D9px80C9d440D9cyk0C9d440D9cyk0C51k40Ddoik0C64g40Dclmk0C9d440D9px80C",
      "905g0D9px80C9d440D9cyk0C9d440D9cyk0C9d440D9cyk0C9d440D9cyk0C9d440D9px80C905g0D9px80C9d440D",
      "9cyk0C9d440D9cyk0C9d440D9cyk0C8a840Dafuk0C8a840Dast80C7x9g0Dast80C7x9g0Dast80C8a840Dafuk0C",
      "8a840Dafuk0C8a840Dast80C7x9g0Dast80C7x9g0Dast80C8a840Dafuk0C8a840Dafuk0C8a840Dafuk0C8a840D",
      "ast80C7x9g0Dast80C7x9g0Dast80C8a840Dafuk0C8a840Dafuk0C8a840Dast80C7x9g0Dast80C7x9g0Dast80C",
      "6udg0D"]⟩,
  ⟨"America/Cambridge_Bay", [0, -25200, -21600, -18000], .yearly (-25200) (-21600) .northAmerican,
    ["rtih400Bbjeec0C1wd180Bdvfpg0C9cyk0B9d440C9cyk0B9d440C9cyk0B9d440C9cyk0B9d440C9px80B905g0C",
      "9px80B9d440C9cyk0B9d440C9cyk0B9d440C9cyk0B9d440C9cyk0B9d440C9px80B905g0C9px80B9d440C9cyk0B",
      "9d440C9cyk0B9d440C9cyk0B8a840Cafuk0B8a840Cast80B7x9g0Cast80B7x9g0Cast80B8a840Cafuk0B8a840C",
      "afuk0B8a840Cast80B7x9g0Cast80B7x9g0Cast80B8a840Cafuk0B8a840Cafuk0B8a840Cafuk0B8a840Cipzw0D",
      "b5mc0Cidcc0B8a840Cafuk0B8a840Cafuk0B8a840Cast80B7x9g0Cast80B7x9g0Cast80B6udg0C"]⟩,
  ⟨"America/Campo_Grande", [-13108, -14400, -10800], .steady (-14400),
    ["rqdrzg4B99ka7wC9a9c0B9io40C99980B8p65g0C6zuo0Bbs2o0C67zw0Bcjxg0C69uk0Bcjxg0C4ml80B5mf440C",
      "49mk0Bhaas0C33180Bcjxg0C4ml80Bcls40C66580Bcls40C67zw0B981s40C6u7w0Bbiw40C5rbw0Bd0lg0C",
      "5ed80Bcyqs0C5ed80Bdbpg0C64ak0Bcyqs0C64ak0Bcls40C5rbw0Bdbpg0C51ek0Bdbpg0C6h980Bc8tg0C6h980B",
      "c8tg0C64ak0Bc8tg0C6u7w0Bbxpg0C7iak0Bbiw40C6u7w0Bbiw40C7k580Bbiw40C6u7w0Bc8tg0C6h980Bdbpg0C",
      "5ed80Bcls40C64ak0Bdfes0C5nmk0Bc8tg0C6h980Bdbpg0C5rbw0Bbvus0C6h980Bcls40C64ak0Bcls40C6h980B",
      "c8tg0C6h980Bc8tg0C6u7w0Bc8tg0C64ak0Bcls40C64ak0Bcls40C6h980Bc8tg0C6h980Bc8tg0C6h980Bc8tg0C",
      "6h980Bdbpg0C5ed80B"]⟩,
  ⟨"America/Cancun", [-20824, -21600, -18000, -14400], .steady (-18000),
    ["ruk3a00Bvb0dk0Cj8d00B6x2wc0Cafuk0B8a840Cipzw0D64ak0C4bms0B8a840Cast80B7x9g0Cast80B9q2s0C",
      "7k580B9q2s0Cafuk0B8a840Cafuk0B8a840Cast80B7x9g0Cast80B7x9g0Cast80B7x9g0Cast80B8a840Cafuk0B",
      "8a840Cafuk0B8a840Cast80B7x9g0Cast80B7x9g0Cast80B8a840Cafuk0B8a840Cafuk0B51k40C"]⟩,
  ⟨"America/Caracas", [-16064, -16060, -16200, -14400], .steady (-14400),
    ["rduwke8BbjfjzwCrlo83wDmeoxm0C4dps00D"]⟩,
  ⟨"America/Cayenne", [-12560, -14400, -10800], .steady (-10800),
    ["rp2pj0wBtcw6r4C"]⟩,
  ⟨"America/Chicago", [-21036, -21600, -18000], .yearly (-21600) (-18000) .northAmerican,
    ["ranwvc0Bhxltk0Cast80B7x9g0Cast80Bbvus0C776k0B7kas0Cb5rw0B9d440C7k580Bb5xg0C7x3w0Basys0C",
      "7x3w0Basys0C7x3w0Basys0C7x3w0Basys0C7x3w0Bb5xg0C7x3w0Basys0C7x3w0Basys0C7x3w0Basys0C7x3w0B",
      "asys0C7x3w0Bb5xg0C7k580Bb5xg0C7x3w0Basys0C7x3w0B7x9g0Cdbjw0B8a840C7x3w0Basys0C7x3w0Bb5xg0C",
      "7k580Bb5xg0C7x3w0Basys0C7x3w0B6w840C1wd180Basys0C7x3w0Basys0C7x3w0Basys0C7x3w0Basys0C",
      "7x3w0Bb5xg0C7k580Bb5xg0C7x3w0Basys0C7x3w0Basys0C7x3w0Basys0C7x3w0Basys0C9px80B9d440C9cyk0B",
      "9d440C9cyk0B9d440C9cyk0B9d440C9cyk0B9d440C9px80B9d440C9cyk0B9d440C9cyk0B9d440C9cyk0B9d440C",
      "9cyk0B9d440C9px80B905g0C9px80B9d440C9cyk0B9d440C9cyk0B9d440C9cyk0B9d440C9cyk0B9d440C9px80B",
      "9d440C9cyk0B9d440C9cyk0B3lpg0Cf4d80B64g40Cclmk0B9d440C9px80B905g0C9px80B9d440C9cyk0B9d440C",
      "9cyk0B9d440C9cyk0B9d440C9cyk0B9d440C9px80B905g0C9px80B9d440C9cyk0B9d440C9cyk0B9d440C9cyk0B",
      "8a840Cafuk0B8a840Cast80B7x9g0Cast80B7x9g0Cast80B8a840Cafuk0B8a840Cafuk0B8a840Cast80B7x9g0C",
      "ast80B7x9g0Cast80B8a840Cafuk0B8a840Cafuk0B8a840Cafuk0B8a840Cast80B7x9g0Cast80B7x9g0Cast80B",
      "8a840Cafuk0B8a840Cafuk0B8a840Cast80B7x9g0Cast80B7x9g0Cast80B6udg0C"]⟩,
  ⟨"America/Chihuahua", [-25460, -25200, -21600, -18000], .steady (-21600),
    ["ruk3cs0B2u5s00C1si580B8jhg0C7x3w0B9eys0Cxes2s0Dafuk0C8a840Dafuk0Ciq5g0B8a840Cast80B7x9g0C",
      "ast80B9q2s0C7k580B9q2s0Cafuk0B8a840Cafuk0B8a840Cast80B7x9g0Cast80B7x9g0Cast80B7x9g0Cast80B",
      "8a840Cafuk0B8a840Cafuk0B8a840Cast80B7x9g0Cast80B7x9g0Cast80B8a840Cafuk0B8a840Cafuk0B8a840C",
      "afuk0B8a840Cast80B7x9g0Cast80B7x9g0Cast80B8a840Cafuk0B8a840Cafuk0B8a840Cast80B7x9g0C"]⟩,
  ⟨"America/Ciudad_Juarez", [-25556, -25200, -21600, -18000],
    .yearly (-25200) (-21600) .northAmerican,
    ["ruk3cs0B2u5s00C1si580B8jhg0C7x3w0B9eys0Cxes2s0Dafuk0C8a840Dafuk0Ciq5g0B8a840Cast80B7x9g0C",
      "ast80B9q2s0C7k580B9q2s0Cafuk0B8a840Cafuk0B8a840Cast80B7x9g0Cast80B7x9g0Cast80B7x9g0Cast80B",
      "8a840Cafuk0B8a840Cafuk0B77c40Cc8nw0B6hes0Cc8nw0B6hes0Cc8nw0B6hes0Cc8nw0B6hes0Cc8nw0B6hes0C",
      "c8nw0B6udg0Cc8nw0B6hes0Cc8nw0B6hes0Cc8nw0B6hes0Cc8nw0B6hes0Cc8nw0B6udg0Cc8nw0B6hes0C",
      "dgyc0B"]⟩,
  ⟨"America/Costa_Rica", [-20173, -21600, -18000], .steady (-21600),
    ["ru218wdBubtl3nC51ek0Bdoo40C51ek0B5jso40C8drw0Bacas0C2xh80B"]⟩,
  ⟨"America/Coyhaique", [-17296, -16965, -18000, -14400, -10800], .steady (-10800),
    ["rduwlcgBag6l2tC3dlssrB157b79Df4e0rB49hzb9Daye0rC7ves0Dawik0C7ves0Dawik0C7ves0Dawik0C7ves0D",
      "ayd80C7ves0D534ik0C351g0D2fnh80C2mg00Db73400E7k580Dc8tg0E6h980Da31g0E7x3w0Dasys0E7x3w0D",
      "b5xg0E7k580Dag040E8a2k0Db5xg0E7k580Db5xg0E7x3w0Dasys0E7x3w0Dasys0E7x3w0Db5xg0E7k580Db5xg0E",
      "7k580Db5xg0E7x3w0Dasys0E7x3w0Dasys0E7x3w0Dasys0E7x3w0Db5xg0E7k580Db5xg0E7k580Db5xg0E9cyk0D",
      "9d440E7x3w0Dasys0E7x3w0Db5xg0E7k580D9q2s0E8zzw0Db5xg0E7x3w0Dasys0E7x3w0Dasys0E7x3w0Dasys0E",
      "7x3w0Db5xg0E7k580Db5xg0E8n180Da31g0E7x3w0Da31g0E9px80D9q2s0E7x3w0Db5xg0E7k580Db5xg0E7k580D",
      "b5xg0E7k580Db5xg0E7x3w0Dasys0E7x3w0Dasys0E7x3w0Db5xg0E7k580Db5xg0E8n180Da31g0E7x3w0Dasys0E",
      "8zzw0D9q2s0East80D5eis0Ecyl80D6hes0Ec8nw0D6udg0Ebvp80D6udg0Evonw0D4olg0Ee1h80D4olg0Ee1h80D",
      "4olg0Ec8nw0D7x9g0East80D7x9g0East80D7x9g0East80D8a840Eafuk0D7x9g0Eb5rw0D7x9g0E"]⟩,
  ⟨"America/Cuiaba", [-13460, -14400, -10800], .steady (-14400),
    ["rqdrzpwB99k9y4C9a9c0B9io40C99980B8p65g0C6zuo0Bbs2o0C67zw0Bcjxg0C69uk0Bcjxg0C4ml80B5mf440C",
      "49mk0Bhaas0C33180Bcjxg0C4ml80Bcls40C66580Bcls40C67zw0B981s40C6u7w0Bbiw40C5rbw0Bd0lg0C",
      "5ed80Bcyqs0C5ed80Bdbpg0C64ak0Bcyqs0C64ak0Bcls40C5rbw0Bdbpg0C51ek0Bdbpg0C6h980Bc8tg0C6h980B",
      "c8tg0C64ak0Bc8tg0C6u7w0Bbxpg0C7iak0Bbiw40C6u7w0Bbiw40C7k580Bbiw40C6u7w0Bc8tg0C6h980Bdbpg0C",
      "5ed80Bw5hg0C5nmk0Bc8tg0C6h980Bdbpg0C5rbw0Bbvus0C6h980Bcls40C64ak0Bcls40C6h980Bc8tg0C6h980B",
      "c8tg0C6u7w0Bc8tg0C64ak0Bcls40C64ak0Bcls40C6h980Bc8tg0C6h980Bc8tg0C6h980Bc8tg0C6h980Bdbpg0C",
      "5ed80B"]⟩,
  ⟨"America/Danmarkshavn", [-4480, -10800, -7200, 0], .steady 0,
    ["rrq2osgBx8nx3kC8zrk0B9d1c0C9d1c0B9d1c0C9d1c0B9d1c0C9d1c0B9d1c0C9q000B9d1c0C9d1c0B9d1c0C",
      "9d1c0B9d1c0C9d1c0B9d1c0C9d1c0B9d1c0C9d1c0B9d1c0C9q000B9d1c0C9d1c0B9d1c0C9d1c0B9d1c0C9d1c0B",
      "9d1c0C9d1c0B9d1c0C9d1c0B53hk0D"]⟩,
  ⟨"America/Dawson", [-33460, -32400, -28800, -25200], .steady (-25200),
    ["rjenohgB97l62kCa2vw0Basys0C882c0Bbmiwc0C1wd180Ba7n3w0D9q000B465k00C3e2is0D9cyk0C9d440D",
      "9cyk0C9d440D9px80C905g0D9px80C9d440D9cyk0C9d440D9cyk0C9d440D9cyk0C8a840Dafuk0C8a840Dast80C",
      "7x9g0Dast80C7x9g0Dast80C8a840Dafuk0C8a840Dafuk0C8a840Dast80C7x9g0Dast80C7x9g0Dast80C8a840D",
      "afuk0C8a840Dafuk0C8a840Dafuk0C8a840Dast80C7x9g0Dast80C7x9g0Dast80C8a840Dafuk0C8a840Dafuk0C",
      "8a840Dast80C7x9g0Dast80C7x9g0Dast80C6udg0Dc8nw0C6hes0Dc8nw0C6hes0Dc8nw0C6udg0Dc8nw0C6hes0D",
      "c8nw0C6hes0Dc8nw0C6hes0Dc8nw0C6hes0Dc8nw0C6hes0Dc8nw0C6udg0Dc8nw0C6hes0Dc8nw0C6hes0Dc8nw0C",
      "6hes0Dc8nw0C6hes0D"]⟩,
  ⟨"America/Dawson_Creek", [-28856, -28800, -25200], .steady (-25200),
    ["raq5kxkBhw36ugCa2vw0Bc5jxg0C1wd180Btj1g0C7x3w0Basys0C7x3w0Basys0C7x3w0Bb5xg0C7k580Bb5xg0C",
      "7x3w0Basys0C7x3w0Basys0C7x3w0Basys0C7x3w0Basys0C7x3w0Bb5xg0C7x3w0Basys0C7x3w0Basys0C7x3w0B",
      "asys0C7x3w0Basys0C7x3w0Bb5xg0C7k580Bb5xg0C9cyk0B9d440C9cyk0B9d440C9cyk0B9d440C9px80B905g0C",
      "9px80B9d440C9cyk0B9d440C9cyk0B9d440C9cyk0B9d440C9cyk0B9d440C9px80B9d440C"]⟩,
  ⟨"America/Denver", [-25196, -25200, -21600], .yearly (-25200) (-21600) .northAmerican,
    ["ranwy40Bhxltk0Cast80B7x9g0Cast80B7x9g0Cb5rw0B7kas0C2vmk0Bataw40C1wd180Ba7n9g0C9px80B905g0C",
      "9px80B9d440C9cyk0B9d440C9cyk0B9d440C9cyk0B9d440C9cyk0B9d440C9px80B9d440C9cyk0B9d440C9cyk0B",
      "3lpg0Cf4d80B64g40Cclmk0B9d440C9px80B905g0C9px80B9d440C9cyk0B9d440C9cyk0B9d440C9cyk0B9d440C",
      "9cyk0B9d440C9px80B905g0C9px80B9d440C9cyk0B9d440C9cyk0B9d440C9cyk0B8a840Cafuk0B8a840Cast80B",
      "7x9g0Cast80B7x9g0Cast80B8a840Cafuk0B8a840Cafuk0B8a840Cast80B7x9g0Cast80B7x9g0Cast80B8a840C",
      "afuk0B8a840Cafuk0B8a840Cafuk0B8a840Cast80B7x9g0Cast80B7x9g0Cast80B8a840Cafuk0B8a840Cafuk0B",
      "8a840Cast80B7x9g0Cast80B7x9g0Cast80B6udg0C"]⟩,
  ⟨"America/Detroit", [-19931, -21600, -18000, -14400], .yearly (-18000) (-14400) .northAmerican,
    ["rlop3dnB5eraudCdyeyk0D1wd180C1c9440D7x3w0C9rlbxoD71s2cC9d440D9cyk0C2cmdg0D9cyk0C3lpg0D",
      "f4d80C9d440D9cyk0C9d440D9px80C905g0D9px80C9d440D9cyk0C9d440D9cyk0C9d440D9cyk0C9d440D9cyk0C",
      "9d440D9px80C905g0D9px80C9d440D9cyk0C9d440D9cyk0C9d440D9cyk0C8a840Dafuk0C8a840Dast80C7x9g0D",
      "ast80C7x9g0Dast80C8a840Dafuk0C8a840Dafuk0C8a840Dast80C7x9g0Dast80C7x9g0Dast80C8a840Dafuk0C",
      "8a840Dafuk0C8a840Dafuk0C8a840Dast80C7x9g0Dast80C7x9g0Dast80C8a840Dafuk0C8a840Dafuk0C8a840D",
      "ast80C7x9g0Dast80C7x9g0Dast80C6udg0D"]⟩,
  ⟨"America/Edmonton", [-27232, -25200, -21600], .steady (-21600),
    ["rmjz6cgB629inkCa2vw0B8n6s0C29ek0Bh6lg0C9px80B905g0C7x3w0Bb5xg0C7k580Bb5xg0C7x3w0B9l0g40C",
      "1wd180Btj1g0C7x3w0Bctzk40C9cyk0B9d440C9cyk0B9d440C9cyk0B9d440C9cyk0B9d440C9px80B905g0C",
      "9px80B9d440C9cyk0B9d440C9cyk0B9d440C9cyk0B9d440C9cyk0B9d440C9px80B905g0C9px80B9d440C9cyk0B",
      "9d440C9cyk0B9d440C9cyk0B8a840Cafuk0B8a840Cast80B7x9g0Cast80B7x9g0Cast80B8a840Cafuk0B8a840C",
      "afuk0B8a840Cast80B7x9g0Cast80B7x9g0Cast80B8a840Cafuk0B8a840Cafuk0B8a840Cafuk0B8a840Cast80B",
      "7x9g0Cast80B7x9g0Cast80B8a840Cafuk0B8a840Cafuk0B8a840Cast80B7x9g0Cast80B7x9g0Cast80B6udg0C",
      "c8nw0B6hes0Cc8nw0B6hes0Cc8nw0B6udg0Cc8nw0B6hes0Cc8nw0B6hes0Cc8nw0B6hes0Cc8nw0B6hes0Cc8nw0B",
      "6hes0Cc8nw0B6udg0Cc8nw0B6hes0Cc8nw0B6hes0Cc8nw0B6hes0Cc8nw0B6hes0Cc8nw0B6udg0Cc8nw0B6hes0C",
      "c8nw0B6hes0Cc8nw0B6hes0Cc8nw0B6hes0Cc8nw0B6hes0C"]⟩,
  ⟨"America/Eirunepe", [-16768, -18000, -14400], .steady (-18000),
    ["rqds29sB99ka68C9a9c0B9io40C99980B8p65g0C6zuo0Bbs2o0C67zw0Bcjxg0C69uk0Bcjxg0C4ml80B5mf440C",
      "49mk0Bhaas0C33180Bcjxg0C4ml80Bcls40C66580Bcls40C67zw0B981s40C6u7w0Bbiw40C5rbw0Bd0lg0C",
      "5ed80B2yy2s0C6h980B7hg2s0C2t2t80B"]⟩,
  ⟨"America/El_Salvador", [-21408, -21600, -18000], .steady (-21600),
    ["ru1bcioBymao5cC7k580Bb5xg0C7k580B"]⟩,
  ⟨"America/Fort_Nelson", [-29447, -28800, -25200], .steady (-25200),
    ["raq5ldzBhw36e1Ca2vw0Bc5jxg0C1wd180Btj1g0C7x3w0Basys0C7x3w0Basys0C7x3w0Bb5xg0C7k580Bb5xg0C",
      "7x3w0Basys0C7x3w0Basys0C7x3w0Basys0C7x3w0Basys0C7x3w0Bb5xg0C7x3w0Basys0C7x3w0Basys0C7x3w0B",
      "asys0C7x3w0Basys0C7x3w0Bb5xg0C7k580Bb5xg0C9cyk0B9d440C9cyk0B9d440C9cyk0B9d440C9px80B905g0C",
      "9px80B9d440C9cyk0B9d440C9cyk0B9d440C9cyk0B9d440C9cyk0B9d440C9px80B9d440C9cyk0B9d440C9cyk0B",
      "9d440C9cyk0B9d440C9cyk0B9d440C9px80B905g0C9px80B9d440C9cyk0B9d440C9cyk0B9d440C9cyk0B9d440C",
      "9cyk0B9d440C9px80B905g0C9px80B9d440C9cyk0B9d440C9cyk0B9d440C9cyk0B8a840Cafuk0B8a840Cast80B",
      "7x9g0Cast80B7x9g0Cast80B8a840Cafuk0B8a840Cafuk0B8a840Cast80B7x9g0Cast80B7x9g0Cast80B8a840C",
      "afuk0B8a840Cafuk0B8a840Cafuk0B8a840Cast80B7x9g0Cast80B7x9g0Cast80B8a840Cafuk0B8a840Cafuk0B",
      "8a840Cast80B7x9g0Cast80B7x9g0Cast80B6udg0Cc8nw0B6hes0Cc8nw0B6hes0Cc8nw0B6udg0Cc8nw0B6hes0C",
      "c8nw0B6hes0Cc8nw0B6hes0Cc8nw0B6hes0Cc8nw0B6hes0C"]⟩,
  ⟨"America/Fortaleza", [-9240, -10800, -7200], .steady (-10800),
    ["rqdrwgoB99kafcC9a9c0B9io40C99980B8p65g0C6zuo0Bbs2o0C67zw0Bcjxg0C69uk0Bcjxg0C4ml80B5mf440C",
      "49mk0Bhaas0C33180Bcjxg0C4ml80Bcls40C66580Bcls40C67zw0B981s40C6u7w0Bbiw40C5rbw0Bd0lg0C",
      "5ed80Bcyqs0C5ed80Bdbpg0C64ak0B514g40C7k580Bbiw40Cpuk0Bid6s0C6h980B"]⟩,
  ⟨"America/Glace_Bay", [-14388, -14400, -10800], .yearly (-14400) (-10800) .northAmerican,
    ["rkcswfoB89fk8cCa2vw0Bc5jxg0C1wd180B3y8g40C7x3w0B9pa5g0C9cyk0B9d440C9cyk0B9d440C9cyk0B",
      "9d440C9cyk0B9d440C9px80B905g0C9px80B9d440C9cyk0B9d440C9cyk0B9d440C9cyk0B9d440C9cyk0B9d440C",
      "9px80B905g0C9px80B9d440C9cyk0B9d440C9cyk0B9d440C9cyk0B8a840Cafuk0B8a840Cast80B7x9g0Cast80B",
      "7x9g0Cast80B8a840Cafuk0B8a840Cafuk0B8a840Cast80B7x9g0Cast80B7x9g0Cast80B8a840Cafuk0B8a840C",
      "afuk0B8a840Cafuk0B8a840Cast80B7x9g0Cast80B7x9g0Cast80B8a840Cafuk0B8a840Cafuk0B8a840Cast80B",
      "7x9g0Cast80B7x9g0Cast80B6udg0C"]⟩,
  ⟨"America/Goose_Bay", [-14500, -12652, -9052, -12600, -9000, -14400, -10800, -7200],
    .yearly (-14400) (-10800) .northAmerican,
    ["raq59usBhw35goCa2vw0B8kjbw0DkzjykE7k580Db5xg0E7k580Db5xg0E7k580Dbiw40E776k0Dbiw40E7k580D",
      "b5xg0E7k580Db5xg0E1roo40Dbiw40E7k580Db5xg0E7k580Db5xg0E7k580Db5xg0E7k580Dbiw40E7k580D",
      "ag040E7x3w0Dasys0E7x3w0Dasys0E7x3w0Dasys0E7x3w0Dasys0E7x3w0Db5xg0E7x3w0Dasys0E7x3w0Dasys0E",
      "7x3w0Dasys0E7x3w0Dasys0E9px80D9d440E9cyk0D9d440E9cyk0D9d440E9cyk0D9d440E9cyk0D9d440E9px80D",
      "6y2s0F22420G9px80F9d440G9cyk0F9d440G9cyk0F9d440G9cyk0F9d440G9cyk0F9d440G9px80F9d440G9cyk0F",
      "9d440G9cyk0F9d440G9cyk0F9d440G9cyk0F9d440G9px80F905g0G9px80F9d440G9cyk0F9d440G9cyk0F9d440G",
      "9cyk0F9d440G9cyk0F9d440G9px80F905g0G9px80F9d440G9cyk0F9d440G9cyk0F9d440G9cyk0F8a2loGafuk0F",
      "8a840Hasqg0F7xc80Gast80F7x9g0Gast80F8a840Gafuk0F8a840Gafuk0F8a840Gast80F7x9g0Gast80F7x9g0G",
      "ast80F8a840Gafuk0F8a840Gafuk0F8a840Gafuk0F8a840Gast80F7x9g0Gast80F7x9g0Gast80F8a840Gafuk0F",
      "8a840Gafuk0F8a840Gast80F7x9g0Gast80F7x9g0Gast80F6udg0Gc8nw0F6hes0Gc8nw0F6hes0Gc8nw0F6udg0G",
      "c8nw0F6hes0Gc8tecF"]⟩,
  ⟨"America/Grand_Turk", [-17072, -18430, -18000, -14400], .yearly (-18000) (-14400) .northAmerican,
    ["rduwl68Bbiv7pqCz3brw2D9cyk0C9d440D9cyk0C9d440D9cyk0C9d440D9px80C905g0D9px80C9d440D9cyk0C",
      "9d440D9cyk0C9d440D9cyk0C8a840Dafuk0C8a840Dast80C7x9g0Dast80C7x9g0Dast80C8a840Dafuk0C8a840D",
      "afuk0C8a840Dast80C7x9g0Dast80C7x9g0Dast80C8a840Dafuk0C8a840Dafuk0C8a840Dafuk0C8a840Dast80C",
      "7x9g0Dast80C7x9g0Dast80C8a840Dafuk0C8a840Dafuk0C8a840Dast80C7x9g0Dast80C7x9g0Dast80C6udg0D",
      "c8nw0C6hes0Dc8nw0C6hes0Dc8nw0C6udg0Dc8nw0C6hes0Dc8nw0C6hes0Dc8nw0C6hes0Dc8nw0C6hes0Dc8nw0C",
      "6hes0D1wruk0C"]⟩,
  ⟨"America/Guatemala", [-21724, -21600, -18000], .steady (-21600),
    ["rsv6orgBss0akkC4ofw0B4tidg0C6djw0B3wwas0C8n180B7n5ms0C7x3w0B"]⟩,
  ⟨"America/Guayaquil", [-19160, -18840, -18000, -14400], .steady (-18000),
    ["rduwms8Ble9mf4Cwb620oD3jp80C"]⟩,
  ⟨"America/Guyana", [-13959, -14400, -13500, -10800], .steady (-14400),
    ["rp4ayrrB1va8c9Cvj6nb0D8p0jd0B"]⟩,
  ⟨"America/Halifax", [-15264, -14400, -10800], .yearly (-14400) (-10800) .northAmerican,
    ["rkcsx40B777go0C9et80Bst9o0Ca2vw0Bssyk0C5rbw0Bcv1g0C69uk0Bc6ys0C6kyk0Bci2s0C67zw0Bci2s0C",
      "6w2k0Bbu040C7lzw0Bbu040C66580Bbu040C7lzw0Bbu040C64ak0Bcls40C5v180Bcv1g0C6j3w0Bc6ys0C79180B",
      "b42s0C7lzw0Bb42s0C7yyk0Bbu040C64ak0Bdbpg0C66580Bcls40C5ed80Bbu040C7lzw0Bb42s0C7lzw0Bcjxg0C",
      "66580Bbh1g0C7lzw0Bb42s0C7lzw0B6uj00C1wd180Basys0C7x3w0Basys0C7x3w0Basys0C7x3w0Basys0C",
      "7x3w0Btw040C7x3w0Basys0C7x3w0Basys0C7x3w0Basys0C7x3w0Btw040C7x3w0Basys0C7x3w0Basys0C7x3w0B",
      "asys0C7x3w0B1cm2s0C9cyk0B9d440C9cyk0B9d440C9cyk0B9d440C9px80B905g0C9px80B9d440C9cyk0B",
      "9d440C9cyk0B9d440C9cyk0B9d440C9cyk0B9d440C9px80B9d440C9cyk0B9d440C9cyk0B9d440C9cyk0B9d440C",
      "9cyk0B9d440C9px80B905g0C9px80B9d440C9cyk0B9d440C9cyk0B9d440C9cyk0B9d440C9cyk0B9d440C9px80B",
      "905g0C9px80B9d440C9cyk0B9d440C9cyk0B9d440C9cyk0B8a840Cafuk0B8a840Cast80B7x9g0Cast80B7x9g0C",
      "ast80B8a840Cafuk0B8a840Cafuk0B8a840Cast80B7x9g0Cast80B7x9g0Cast80B8a840Cafuk0B8a840Cafuk0B",
      "8a840Cafuk0B8a840Cast80B7x9g0Cast80B7x9g0Cast80B8a840Cafuk0B8a840Cafuk0B8a840Cast80B7x9g0C",
      "ast80B7x9g0Cast80B6udg0C"]⟩,
  ⟨"America/Havana", [-19768, -19776, -18000, -14400], .yearly (-18000) (-14400) .cuban,
    ["rduwn94Bijto08C1icfyoD69uk0C62s040D4ofw0Ce1ms0D51ek0Ce1ms0D4ofw0C1fhs40D4ofw0Ce1ms0D4ofw0C",
      "9s9k40D67zw0Ccedg0D6h980C9o840D7yyk0Cb5xg0D7k580Cbvus0D9cyk0C9d440D9cyk0C9d440D9px80C",
      "9d440D8a2k0Cag040D8bx80Cae5g0D8drw0Cacas0D9cyk0C9d440D9px80C905g0D9px80C9q2s0D7x3w0C8a840D",
      "ast80C7x9g0Dast80Casys0D7x3w0Casys0D7x3w0Casys0D7x3w0Casys0D8a2k0Cag040D8a2k0C7x9g0Dast80C",
      "7x9g0Dast80C8a840Dafuk0C8a840Dafuk0C905g0Da2vw0C905g0D9q000C902o0D9q000C902o0D9q000C902o0D",
      "9q000C902o0D9q000C9d1c0D9d1c0C9d1c0D9q000C8n400Dasw00C7x6o0Db5uo0C7x6o0Dasw00C7x6o0Dasw00C",
      "8a5c0Dafxc0C8a5c0Dafxc0C7x6o0D1cm000C6uao0Dbvs00C779c0Dbitc0C6uao0Dbvs00C779c0Dbvs00C",
      "779c0Dc8qo0C779c0D"]⟩,
  ⟨"America/Hermosillo", [-26632, -25200, -21600], .steady (-25200),
    ["ruk3cs0B2u5s00C1si580B8jhg0C7x3w0B9eys0C591h80Bs5qoc0Cafuk0B8a840Cafuk0B8a840Cafuk0B"]⟩,
  ⟨"America/Indiana/Indianapolis", [-20678, -21600, -18000, -14400],
    .yearly (-18000) (-14400) .northAmerican,
    ["ranwvc0Bhxltk0Cast80B7x9g0Cast80Bbaw840C51ek0B6w840C1wd180Basys0C7x3w0Basys0C7x3w0Basys0C",
      "7x3w0Basys0C7x3w0Bb5xg0C7k580Bb5xg0C7x3w0Basys0C7x3w0Basys0C7x3w0Basys0C7x3w0Basys0C",
      "19q7w0Basys0C5qonw0D9cyk0C9d440D9cyk0Cihslg0Dast80C6udg0D"]⟩,
  ⟨"America/Indiana/Knox", [-20790, -21600, -18000], .yearly (-21600) (-18000) .northAmerican,
    ["ranwvc0Bhxltk0Cast80B7x9g0Cast80Bbmtus0C1wd180Btj1g0C7x3w0Basys0C7x3w0Basys0C7x3w0Bb5xg0C",
      "7k580Bb5xg0C7x3w0Basys0C7x3w0Basys0C7x3w0Basys0C7x3w0Basys0C9px80B9d440C9cyk0B9d440C7x3w0B",
      "asys0C7x3w0Basys0C9cyk0B9d440C9px80B9d440C9cyk0B9d440Cs3180B1twas0C9cyk0B9d440C9cyk0B",
      "9d440C9cyk0B9d440C9cyk0B9d440C9px80B9d440C9cyk0B9d440C9cyk0B3lpg0Cf4d80B64g40Cclmk0B9d440C",
      "9px80B905g0C9px80B9d440C9cyk0B9d440C9cyk0B9d440C9cyk0B9d440C9cyk0B9d440C9px80B905g0C9px80B",
      "9d440C9cyk0B9d440C9cyk0B9d440C9cyk0B8a840Cafuk0B8a840Cast80B7x9g0Cast80B7x9g0Cast80B8a840C",
      "84duk0B6udg0C"]⟩,
  ⟨"America/Indiana/Marengo", [-20723, -21600, -18000, -14400],
    .yearly (-18000) (-14400) .northAmerican,
    ["ranwvc0Bhxltk0Cast80B7x9g0Cast80Bbmtus0C1wd180B2wsas0C7x3w0B1c9440C7x3w0Basys0C7x3w0B",
      "b5xg0C7x3w0Basys0C7x3w0Basys0C7x3w0Basys0C7x3w0Basys0C7x3w0Bb5xg0C465h80D9cyk0C9d440D",
      "9cyk0C9d440D9px80C9d440D9cyk0C9d440D9cyk0Couis0Dclmk0Cfvt9g0Dast80C6udg0D"]⟩,
  ⟨"America/Indiana/Petersburg", [-20947, -21600, -18000, -14400],
    .yearly (-18000) (-14400) .northAmerican,
    ["ranwvc0Bhxltk0Cast80B7x9g0Cast80Bbmtus0C1wd180B501ek0C7kas0Bb5xg0C7x3w0Basys0C7x3w0Basys0C",
      "7x3w0Basys0C7x3w0Basys0C7x3w0Bb5xg0C9cyk0B9d440C9cyk0B9d440C9cyk0B9d440C9cyk0B9d440Csfzw0B",
      "9d440C9cyk0B9d440C9cyk0B9d440C9cyk0B9d440C9cyk0B9d440C9px80B9d440C9cyk0B9d440C9cyk0B3lpg0C",
      "f4d80B64g40Cclmk0B9d440C9px80B905g0Cfeivw0B6udg0Cipzw0D"]⟩,
  ⟨"America/Indiana/Tell_City", [-20823, -21600, -18000, -14400],
    .yearly (-21600) (-18000) .northAmerican,
    ["ranwvc0Bhxltk0Cast80B7x9g0Cast80Bbmtus0C1wd180B501ek0C7kas0Bb5xg0C7x3w0Basys0C7x3w0Basys0C",
      "7x3w0Basys0C7x3w0Basys0C7x3w0Bb5xg0C9cyk0B9d440C9cyk0B9d440C9cyk0B9d440C1tw580B9d440C",
      "9cyk0B9d440D9cvs0C9d440D9cyk0Cislhg0B6udg0C"]⟩,
  ⟨"America/Indiana/Vevay", [-20416, -21600, -18000, -14400],
    .yearly (-18000) (-14400) .northAmerican,
    ["ranwvc0Bhxltk0Cast80B7x9g0Cast80Bbmtus0C1wd180B4gyis0C7txx80D9cyk0C9d440D9cyk0C9d440D",
      "9px80C9d440D9cyk0Chfzhg0Dast80C6udg0D"]⟩,
  ⟨"America/Indiana/Vincennes", [-21007, -21600, -18000, -14400],
    .yearly (-18000) (-14400) .northAmerican,
    ["ranwvc0Bhxltk0Cast80B7x9g0Cast80Bbmtus0C1wd180Basys0C7x3w0B3fidg0C7x3w0Basys0C7x3w0Bb5rw0C",
      "7kas0Bb5xg0C7x3w0Basys0C7x3w0Basys0C7x3w0Basys0C7x3w0Basys0C9px80B9d440C7k580Bb5xg0C9cyk0B",
      "9d440C9cyk0B9d440C2lz980D9cyk0C9d440D9cyk0Cislhg0B6udg0Cipzw0D"]⟩,
  ⟨"America/Indiana/Winamac", [-20785, -21600, -18000, -14400],
    .yearly (-18000) (-14400) .northAmerican,
    ["ranwvc0Bhxltk0Cast80B7x9g0Cast80Bbmtus0C1wd180Basys0C7x3w0Basys0C7x3w0Basys0C7x3w0Basys0C",
      "7x3w0Bb5xg0C7k580Bb5xg0C7x3w0Basys0C7x3w0Basys0C7x3w0Basys0C7x3w0Basys0C9px80B9d440C9cyk0B",
      "9d440C7x3w0Basys0C7x3w0Basys0C7x3w0Basys0C7x3w0Bb5xg0C465h80D9cyk0C9d440D9cyk0Cislhg0B",
      "6udg0D"]⟩,
  ⟨"America/Inuvik", [0, -28800, -25200, -21600], .steady (-21600),
    ["saqjc00Ba34zs0C9cyk0B9d440C9cyk0B9d440C9cyk0B9d440C9cyk0B9d440C9px80B905g0C9px80B9d440C",
      "9cyk0B9d440D9cvs0C9d440D9cyk0C9d440D9cyk0C9d440D9px80C905g0D9px80C9d440D9cyk0C9d440D9cyk0C",
      "9d440D9cyk0C8a840Dafuk0C8a840Dast80C7x9g0Dast80C7x9g0Dast80C8a840Dafuk0C8a840Dafuk0C8a840D",
      "ast80C7x9g0Dast80C7x9g0Dast80C8a840Dafuk0C8a840Dafuk0C8a840Dafuk0C8a840Dast80C7x9g0Dast80C",
      "7x9g0Dast80C8a840Dafuk0C8a840Dafuk0C8a840Dast80C7x9g0Dast80C7x9g0Dast80C6udg0Dc8nw0C6hes0D",
      "c8nw0C6hes0Dc8nw0C6udg0Dc8nw0C6hes0Dc8nw0C6hes0Dc8nw0C6hes0Dc8nw0C6hes0Dc8nw0C6hes0Dc8nw0C",
      "6udg0Dc8nw0C6hes0Dc8nw0C6hes0Dc8nw0C6hes0Dc8nw0C6hes0Dc8nw0C6udg0Dc8nw0C6hes0Dc8nw0C6hes0D",
      "c8nw0C6hes0Dc8nw0C6hes0Dc8nw0C6hes0D"]⟩,
  ⟨"America/Iqaluit", [0, -14400, -18000, -21600], .yearly (-18000) (-14400) .northAmerican,
    ["s5ar6o0B1nh7c0Cdvfpg0B9cyk0C9d440B9cyk0C9d440B9cyk0C9d440B9cyk0C9d440B9px80C905g0B9px80C",
      "9d440B9cyk0C9d440B9cyk0C9d440B9cyk0C9d440B9cyk0C9d440B9px80C905g0B9px80C9d440B9cyk0C9d440B",
      "9cyk0C9d440B9cyk0C8a840Bafuk0C8a840Bast80C7x9g0Bast80C7x9g0Bast80C8a840Bafuk0C8a840Bafuk0C",
      "8a840Bast80C7x9g0Bast80C7x9g0Bast80C8a840Bafuk0C8a840Bafuk0C8a840Bafuk0C8a840Bast80D7xc80C",
      "ipzw0Bast80C8a840Bafuk0C8a840Bafuk0C8a840Bast80C7x9g0Bast80C7x9g0Bast80C6udg0B"]⟩,
  ⟨"America/Jamaica", [-18430, -18000, -14400], .steady (-18000),
    ["rpdrsvyBwbl182Cf4d80B64g40Cclmk0B9d440C9px80B905g0C9px80B9d440C9cyk0B9d440C9cyk0B9d440C",
      "9cyk0B9d440C9cyk0B9d440C9px80B905g0C9px80B"]⟩,
  ⟨"America/Juneau", [54139, -32261, -28800, -25200, -32400],
    .yearly (-32400) (-28800) .northAmerican,
    ["r29pqs1Bh4yu44Cln707vD1wd180Ccawis0D9cyk0C9d440D9cyk0C9d440D9px80C9d440D9cyk0C9d440D9cyk0C",
      "3lpg0Df4d80C64g40Dclmk0C9d440D9px80C905g0D9px80C9d440D9cyk0C9d440D9cyk0Cs36s0D9cyk0C9d440D",
      "9px80C905g0D9px80E9d6w0C9cyk0E9d440C9cyk0E9d440C9cyk0E8a840Cafuk0E8a840Cast80E7x9g0Cast80E",
      "7x9g0Cast80E8a840Cafuk0E8a840Cafuk0E8a840Cast80E7x9g0Cast80E7x9g0Cast80E8a840Cafuk0E8a840C",
      "afuk0E8a840Cafuk0E8a840Cast80E7x9g0Cast80E7x9g0Cast80E8a840Cafuk0E8a840Cafuk0E8a840Cast80E",
      "7x9g0Cast80E7x9g0Cast80E6udg0C"]⟩,
  ⟨"America/Kentucky/Louisville", [-20582, -21600, -18000, -14400],
    .yearly (-18000) (-14400) .northAmerican,
    ["ranwvc0Bhxltk0Cast80B7x9g0Cast80Bsg5g0C6bp80Ba98o40C7x3w0B6w840C1wd180Bast9oC1sw2cB21gis0C",
      "7k580Bb5xg0C7x3w0Basys0C7x3w0Basys0C7x3w0Basys0C7x3w0Basys0C7x3w0Bb5xg0C9cyk0B9d440C9cyk0B",
      "9d440C9cyk0B9d440C9cyk0B9d440C9px80B9d440C3nfek0D9cyk0C9d440D9cyk0C9d440D9cyk0C9d440D",
      "9px80C9d440D9cyk0C9d440D9cyk0Couis0Dclmk0C9d440D9px80C905g0D9px80C9d440D9cyk0C9d440D9cyk0C",
      "9d440D9cyk0C9d440D9cyk0C9d440D9px80C905g0D9px80C9d440D9cyk0C9d440D9cyk0C9d440D9cyk0C8a840D",
      "afuk0C8a840Dast80C7x9g0Dast80C7x9g0Dast80C8a840Dafuk0C8a840Dafuk0C8a840Dast80C7x9g0Dast80C",
      "7x9g0Dast80C8a840Dafuk0C8a840Dafuk0C8a840Dafuk0C8a840Dast80C7x9g0Dast80C7x9g0Dast80C8a840D",
      "afuk0C8a840Dafuk0C8a840Dast80C7x9g0Dast80C7x9g0Dast80C6udg0D"]⟩,
  ⟨"America/Kentucky/Monticello", [-20364, -21600, -18000, -14400],
    .yearly (-18000) (-14400) .northAmerican,
    ["ranwvc0Bhxltk0Cast80B7x9g0Cast80Bbmtus0C1wd180Bbs6g40C9cyk0B9d440C9cyk0B9d440C9cyk0B9d440C",
      "9px80B9d440C9cyk0B9d440C9cyk0B3lpg0Cf4d80B64g40Cclmk0B9d440C9px80B905g0C9px80B9d440C9cyk0B",
      "9d440C9cyk0B9d440C9cyk0B9d440C9cyk0B9d440C9px80B905g0C9px80B9d440C9cyk0B9d440C9cyk0B9d440C",
      "9cyk0B8a840Cafuk0B8a840Cast80B7x9g0Cast80B7x9g0Cast80B8a840Cafuk0B8a840Cafuk0B8a840Cast80B",
      "7x9g0Cast80B7x9g0Cast80B8a840Cafuk0B8a840Cafuk0B8a840Cafuk0B8a840Cast80B7x9g0Cipzw0Dast80C",
      "8a840Dafuk0C8a840Dafuk0C8a840Dast80C7x9g0Dast80C7x9g0Dast80C6udg0D"]⟩,
  ⟨"America/La_Paz", [-16356, -12756, -14400], .steady (-14400),
    ["rznxomcB84ik0C"]⟩,
  ⟨"America/Lima", [-18492, -18516, -18000, -14400], .steady (-18000),
    ["rduwm9oB9ov9coCfcxjloD4ml80C93us0D9cyk0C9d440D9cyk0Cnw16s0D4ml80Ce5c40D4ml80C1fr1g0D4ml80C",
      "1yiys0D4ml80C"]⟩,
  ⟨"America/Los_Angeles", [-28378, -28800, -25200], .yearly (-28800) (-25200) .northAmerican,
    ["ranx0w0Bhxltk0Cast80B7x9g0Cast80Bbmtus0C1wd180B1a3c5oCf2iicBowao0C7k800Bb5uo0C7x6o0Basw00C",
      "7x6o0Basw00C7x6o0Basw00C7x6o0Basw00C7x6o0Bb5uo0C7x6o0Basw00C7x6o0Basw00C7x6o0Basw00C7x6o0B",
      "asw00C7x6o0Bb5uo0C7k800Bb5uo0C9d1c0B9d1c0C9d1c0B9d1c0C9d1c0B9d1c0C9q000B902o0C9q000B9d440C",
      "9cyk0B9d440C9cyk0B9d440C9cyk0B9d440C9cyk0B9d440C9px80B9d440C9cyk0B9d440C9cyk0B3lpg0Cf4d80B",
      "64g40Cclmk0B9d440C9px80B905g0C9px80B9d440C9cyk0B9d440C9cyk0B9d440C9cyk0B9d440C9cyk0B9d440C",
      "9px80B905g0C9px80B9d440C9cyk0B9d440C9cyk0B9d440C9cyk0B8a840Cafuk0B8a840Cast80B7x9g0Cast80B",
      "7x9g0Cast80B8a840Cafuk0B8a840Cafuk0B8a840Cast80B7x9g0Cast80B7x9g0Cast80B8a840Cafuk0B8a840C",
      "afuk0B8a840Cafuk0B8a840Cast80B7x9g0Cast80B7x9g0Cast80B8a840Cafuk0B8a840Cafuk0B8a840Cast80B",
      "7x9g0Cast80B7x9g0Cast80B6udg0C"]⟩,
  ⟨"America/Maceio", [-8572, -10800, -7200], .steady (-10800),
    ["rqdrvy4B99kaxwC9a9c0B9io40C99980B8p65g0C6zuo0Bbs2o0C67zw0Bcjxg0C69uk0Bcjxg0C4ml80B5mf440C",
      "49mk0Bhaas0C33180Bcjxg0C4ml80Bcls40C66580Bcls40C67zw0B981s40C6u7w0Bbiw40C5rbw0Bd0lg0C",
      "5ed80Bcyqs0C5ed80Bdbpg0C64ak0B2yl440C64ak0B1wf1g0C7k580Bbiw40Cpuk0Bid6s0C6h980B"]⟩,
  ⟨"America/Managua", [-20708, -20712, -21600, -18000], .steady (-21600),
    ["rduwnz8Bn7jmo4Cka1i0oDxqqk0C24p6s0D53980Cdmtg0D53980C60itw0Ddq240C53es0D235h80C4beis0D",
      "8zzw0Cat4c0D7x140C"]⟩,
  ⟨"America/Manaus", [-14404, -14400, -10800], .steady (-14400),
    ["rqds0g4B99k97wC9a9c0B9io40C99980B8p65g0C6zuo0Bbs2o0C67zw0Bcjxg0C69uk0Bcjxg0C4ml80B5mf440C",
      "49mk0Bhaas0C33180Bcjxg0C4ml80Bcls40C66580Bcls40C67zw0B981s40C6u7w0Bbiw40C5rbw0Bd0lg0C",
      "5ed80B2yy2s0C6h980B"]⟩,
  ⟨"America/Martinique", [-14660, -14400, -10800], .steady (-14400),
    ["rozklz8Bzz5x4sC8zzw0B"]⟩,
  ⟨"America/Matamoros", [-23400, -21600, -18000], .yearly (-21600) (-18000) .northAmerican,
    ["ruk3a00Bykt480Cast80B3vppg0Cafuk0B8a840Cafuk0B8a840Cafuk0B8a840Cast80B7x9g0Cast80B9q2s0C",
      "7k580B9q2s0Cafuk0B8a840Cafuk0B8a840Cast80B7x9g0Cast80B7x9g0Cast80B7x9g0Cast80B8a840Cafuk0B",
      "8a840Cafuk0B77c40C"]⟩,
  ⟨"America/Mazatlan", [-25540, -25200, -21600], .steady (-25200),
    ["ruk3cs0B2u5s00C1si580B8jhg0C7x3w0B9eys0C591h80Bs5qoc0Cafuk0B8a840Cafuk0B8a840Cafuk0B8a840C",
      "ast80B7x9g0Cast80B9q2s0C7k580B9q2s0Cafuk0B8a840Cafuk0B8a840Cast80B7x9g0Cast80B7x9g0Cast80B",
      "7x9g0Cast80B8a840Cafuk0B8a840Cafuk0B8a840Cast80B7x9g0Cast80B7x9g0Cast80B8a840Cafuk0B8a840C",
      "afuk0B8a840Cafuk0B8a840Cast80B7x9g0Cast80B7x9g0Cast80B8a840Cafuk0B8a840Cafuk0B8a840Cast80B",
      "7x9g0Cast80B"]⟩,
  ⟨"America/Menominee", [-21027, -21600, -18000], .yearly (-21600) (-18000) .northAmerican,
    ["rbmdlk3Bgz53bxCast80B7x9g0Cast80Bbmtus0C1wd180Basys0C7x3w0Ba7n9g0C9px80B1at9g0C2cm7w0B",
      "3lpg0Cf4d80B64g40Cclmk0B9d440C9px80B905g0C9px80B9d440C9cyk0B9d440C9cyk0B9d440C9cyk0B9d440C",
      "9cyk0B9d440C9px80B905g0C9px80B9d440C9cyk0B9d440C9cyk0B9d440C9cyk0B8a840Cafuk0B8a840Cast80B",
      "7x9g0Cast80B7x9g0Cast80B8a840Cafuk0B8a840Cafuk0B8a840Cast80B7x9g0Cast80B7x9g0Cast80B8a840C",
      "afuk0B8a840Cafuk0B8a840Cafuk0B8a840Cast80B7x9g0Cast80B7x9g0Cast80B8a840Cafuk0B8a840Cafuk0B",
      "8a840Cast80B7x9g0Cast80B7x9g0Cast80B6udg0C"]⟩,
  ⟨"America/Merida", [-21508, -21600, -18000], .steady (-21600),
    ["ruk3a00Bvb0dk0Cfzuk0B70bes0Cafuk0B8a840Cafuk0B8a840Cafuk0B8a840Cast80B7x9g0Cast80B9q2s0C",
      "7k580B9q2s0Cafuk0B8a840Cafuk0B8a840Cast80B7x9g0Cast80B7x9g0Cast80B7x9g0Cast80B8a840Cafuk0B",
      "8a840Cafuk0B8a840Cast80B7x9g0Cast80B7x9g0Cast80B8a840Cafuk0B8a840Cafuk0B8a840Cafuk0B8a840C",
      "ast80B7x9g0Cast80B7x9g0Cast80B8a840Cafuk0B8a840Cafuk0B8a840Cast80B7x9g0Cast80B"]⟩,
  ⟨"America/Metlakatla", [54822, -31578, -28800, -25200, -32400],
    .yearly (-32400) (-28800) .northAmerican,
    ["r29pqs1Bh4ytl5Cln70quD1wd180Ccawis0D9cyk0C9d440D9cyk0C9d440D9px80C9d440D9cyk0C9d440D9cyk0C",
      "3lpg0Df4d80C64g40Dclmk0C9d440D9px80C905g0D9px80C9d440D9cyk0C9d440D9cyk0C9d440D9cyk0C9d440D",
      "9cyk0C9d440D9px80C905g0D9px80Cgpc840E6udg0Cc8nw0E6hes0Cc8nw0E6hes0Cg7980E"]⟩,
  ⟨"America/Mexico_City", [-23796, -25200, -21600, -18000], .steady (-21600),
    ["ruk3cs0B2u5s00C1si580B8jhg0C7x3w0B9eys0C3knek0D776k0Crf440D5t6k0C1evk40D71mk0C30p1g0D",
      "8n180Cnufxo0Dafuk0C8a840Dafuk0C8a840Dafuk0C8a840Dast80C7x9g0Dast80C9q2s0D7k580C9q2s0D",
      "afuk0C8a840Dafuk0C8a840Dast80C7x9g0Dast80C7x9g0Dast80C7x9g0Dast80C8a840Dafuk0C8a840Dafuk0C",
      "8a840Dast80C7x9g0Dast80C7x9g0Dast80C8a840Dafuk0C8a840Dafuk0C8a840Dafuk0C8a840Dast80C7x9g0D",
      "ast80C7x9g0Dast80C8a840Dafuk0C8a840Dafuk0C8a840Dast80C7x9g0Dast80C"]⟩,
  ⟨"America/Miquelon", [-13480, -14400, -10800, -7200], .yearly (-10800) (-7200) .northAmerican,
    ["rp1vx2gBzy4wpkC3m59g0Dafuk0C8a840Dast80C7x9g0Dast80C7x9g0Dast80C8a840Dafuk0C8a840Dafuk0C",
      "8a840Dast80C7x9g0Dast80C7x9g0Dast80C8a840Dafuk0C8a840Dafuk0C8a840Dafuk0C8a840Dast80C7x9g0D",
      "ast80C7x9g0Dast80C8a840Dafuk0C8a840Dafuk0C8a840Dast80C7x9g0Dast80C7x9g0Dast80C6udg0D"]⟩,
  ⟨"America/Moncton", [-15548, -18000, -14400, -10800], .yearly (-14400) (-10800) .northAmerican,
    ["raoypbwB9nu9w4C89fhg0Da2vw0C7mqqo0D4ofw0Ce1ms0D4ofw0Ce1ms0D4ofw0Ce1ms0D4ofw0Ce1ms0D4ofw0C",
      "e1ms0D4ofw0Cdmtg0D64ak0Ccao40D6fek0Cbkqs0D7iak0C6y5k0D1wd180Casys0D7x3w0Casys0D7x3w0C",
      "asys0D7x3w0Casys0D7x3w0Cb5xg0D7k580Cb5xg0D7x3w0Casys0D7x3w0Casys0D7x3w0Casys0D7x3w0Casys0D",
      "7x3w0Cb5xg0D7x3w0Casys0D9cyk0C9d440D9cyk0C9d440D9cyk0C9d440D9px80C9d440D9cyk0C9d440D9cyk0C",
      "9d440D9cyk0C9d440D9cyk0C9d440D9px80C905g0D9px80C9d440D9cyk0C9d440D9cyk0C9d440D9cyk0C9d440D",
      "9cyk0C9d440D9px80C9d440D9cyk0Cs36s0D9cyk0C9d440D9cyk0C9d440D9px80C905g0D9px80C9d440D9cyk0C",
      "9d440D9cyk0C9d440D9cyk0C9d440D9cyk0C9d440D9px80C905g0D9px80C9d440D9cyk0C9d440D9cyk0C9d440D",
      "9cyk0C8a840Dafuk0C8a840Dast80C7x9g0Dast80C7x9g0Dast80C8a840Dafuk0C8a840Dafuk0C8a2loDast80C",
      "7x9g0Dast80C7x9g0Dast80C8a840Dafuk0C8a840Dafuk0C8a840Dafuk0C8a840Dast80C7x9g0Dast80C7x9g0D",
      "ast80C8a840Dafuk0C8a840Dafuk0C8a840Dast80C7x9g0Dast80C7x9g0Dast80C6uiycD"]⟩,
  ⟨"America/Monterrey", [-24076, -25200, -21600, -18000], .steady (-21600),
    ["ruk3a00B2u5us0C1si580B8jhg0C7x3w0B9eys0Ct89k40Dast80C3vppg0Dafuk0C8a840Dafuk0C8a840Dafuk0C",
      "8a840Dast80C7x9g0Dast80C9q2s0D7k580C9q2s0Dafuk0C8a840Dafuk0C8a840Dast80C7x9g0Dast80C7x9g0D",
      "ast80C7x9g0Dast80C8a840Dafuk0C8a840Dafuk0C8a840Dast80C7x9g0Dast80C7x9g0Dast80C8a840Dafuk0C",
      "8a840Dafuk0C8a840Dafuk0C8a840Dast80C7x9g0Dast80C7x9g0Dast80C8a840Dafuk0C8a840Dafuk0C8a840D",
      "ast80C7x9g0Dast80C"]⟩,
  ⟨"America/Montevideo", [-13491, -14400, -10800, -12600, -9000, -7200, -5400], .steady (-10800),
    ["rtoph2rB1s74p9C9et80D9exe0C9czy0D9exe0C9czy0D3ydyq0C7x5a0Dasxe0C7x5a0Dasxe0C7x5a0Dasxe0C",
      "7x5a0Db5w20C7k6m0Db5w20C7k6m0D9q1e0C9czy0Dasxe0C7x5a0D6do20Cppvy0E4mmm0C8g9qq0E901a0C",
      "38pe0F2inw0C2nf9g0F8zzw0C1e3s40E9o3y0Cq8he0F2kik0Cyxhg0F4bh80Cs36s0G2vl60E905g0C5rg20F",
      "51ek0Cweqs0F3yik0Ce1ms0F4ofw0Cerk40F3yik0C2vs40Fgk7w0C41iys0F3wnw0Cerk40F4bh80Cc8tg0F",
      "64ak0Cc8tg0F6u7w0Cc8tg0F6h980Cbvus0F6u7w0C614qs0F9q2s0Ca31g0F7x3w0Cag040F8a2k0Casys0F",
      "7x3w0Casys0F7x3w0Casys0F8a2k0Cag040F8a2k0Cag040F8a2k0Casys0F7x3w0Casys0F7x3w0Casys0F",
      "7x3w0C"]⟩,
  ⟨"America/New_York", [-17762, -18000, -14400], .yearly (-18000) (-14400) .northAmerican,
    ["ranwsk0Bhxltk0Cast80B7x9g0Cast80B7x9g0Cb5rw0B905g0C7x3w0Bb5xg0C7k580Bb5xg0C7x3w0Basys0C",
      "7x3w0Basys0C7x3w0Basys0C7x3w0Basys0C7x3w0Bb5xg0C7x3w0Basys0C7x3w0Basys0C7x3w0Basys0C7x3w0B",
      "asys0C7x3w0Bb5xg0C7k580Bb5xg0C7x3w0Basys0C7x3w0Basys0C7x3w0Basys0C7x3w0Basys0C7x3w0Bb5xg0C",
      "7k580Bb5xg0C7x3w0Basys0C7x3w0B6w840C1wd180Basys0C7x3w0Basys0C7x3w0Basys0C7x3w0Basys0C",
      "7x3w0Bb5xg0C7k580Bb5xg0C7x3w0Basys0C7x3w0Basys0C7x3w0Basys0C7x3w0Basys0C9px80B9d440C9cyk0B",
      "9d440C9cyk0B9d440C9cyk0B9d440C9cyk0B9d440C9px80B9d440C9cyk0B9d440C9cyk0B9d440C9cyk0B9d440C",
      "9cyk0B9d440C9px80B905g0C9px80B9d440C9cyk0B9d440C9cyk0B9d440C9cyk0B9d440C9cyk0B9d440C9px80B",
      "9d440C9cyk0B9d440C9cyk0B3lpg0Cf4d80B64g40Cclmk0B9d440C9px80B905g0C9px80B9d440C9cyk0B9d440C",
      "9cyk0B9d440C9cyk0B9d440C9cyk0B9d440C9px80B905g0C9px80B9d440C9cyk0B9d440C9cyk0B9d440C9cyk0B",
      "8a840Cafuk0B8a840Cast80B7x9g0Cast80B7x9g0Cast80B8a840Cafuk0B8a840Cafuk0B8a840Cast80B7x9g0C",
      "ast80B7x9g0Cast80B8a840Cafuk0B8a840Cafuk0B8a840Cafuk0B8a840Cast80B7x9g0Cast80B7x9g0Cast80B",
      "8a840Cafuk0B8a840Cafuk0B8a840Cast80B7x9g0Cast80B7x9g0Cast80B6udg0C"]⟩,
  ⟨"America/Nome", [46702, -39698, -39600, -36000, -32400, -28800],
    .yearly (-32400) (-28800) .northAmerican,
    ["r29pqs1Bh4yzupCln72taD1wd180Ccawis0D9cyk0C9d440D9cyk0C9d440D9px80C9d440D9cyk0C9d440D9cyk0C",
      "3lpg0Df4d80C64g40Dclmk0C9d440D9px80C905g0D9px80C9d440D9cyk0C9d440D9cyk0C9d440D9cyk0C9d440D",
      "9cyk0C9d440D9px80C905g0D9px80E9cyk0F9cyk0E9d440F9cyk0E9d440F9cyk0E8a840Fafuk0E8a840Fast80E",
      "7x9g0Fast80E7x9g0Fast80E8a840Fafuk0E8a840Fafuk0E8a840Fast80E7x9g0Fast80E7x9g0Fast80E8a840F",
      "afuk0E8a840Fafuk0E8a840Fafuk0E8a840Fast80E7x9g0Fast80E7x9g0Fast80E8a840Fafuk0E8a840Fafuk0E",
      "8a840Fast80E7x9g0Fast80E7x9g0Fast80E6udg0F"]⟩,
  ⟨"America/Noronha", [-7780, -7200, -3600], .steady (-7200),
    ["rqdrvc4B99k8rwC9a9c0B9io40C99980B8p65g0C6zuo0Bbs2o0C67zw0Bcjxg0C69uk0Bcjxg0C4ml80B5mf440C",
      "49mk0Bhaas0C33180Bcjxg0C4ml80Bcls40C66580Bcls40C67zw0B981s40C6u7w0Bbiw40C5rbw0Bd0lg0C",
      "5ed80Bcyqs0C5ed80Bdbpg0C64ak0B514g40C7k580Bbiw40Ccvw0Biq5g0C6h980B"]⟩,
  ⟨"America/North_Dakota/Beulah", [-24427, -25200, -21600, -18000],
    .yearly (-21600) (-18000) .northAmerican,
    ["ranwy40Bhxltk0Cast80B7x9g0Cast80Bbmtus0C1wd180Bb9gdg0C9cyk0B9d440C9cyk0B9d440C9cyk0B9d440C",
      "9cyk0B9d440C9px80B9d440C9cyk0B9d440C9cyk0B3lpg0Cf4d80B64g40Cclmk0B9d440C9px80B905g0C9px80B",
      "9d440C9cyk0B9d440C9cyk0B9d440C9cyk0B9d440C9cyk0B9d440C9px80B905g0C9px80B9d440C9cyk0B9d440C",
      "9cyk0B9d440C9cyk0B8a840Cafuk0B8a840Cast80B7x9g0Cast80B7x9g0Cast80B8a840Cafuk0B8a840Cafuk0B",
      "8a840Cast80B7x9g0Cast80B7x9g0Cast80B8a840Cafuk0B8a840Cafuk0B8a840Cafuk0B8a840Cast80B7x9g0C",
      "ast80B7x9g0Cast80B8a840Cafuk0B8a840Cafuk0B8a840Cast80B7x9g0Cast80B7x9g0Cast80B6udg0Cc8nw0B",
      "6hes0Cc8nw0B6hes0Cc8nw0B6udg0Cipzw0D"]⟩,
  ⟨"America/North_Dakota/Center", [-24312, -25200, -21600, -18000],
    .yearly (-21600) (-18000) .northAmerican,
    ["ranwy40Bhxltk0Cast80B7x9g0Cast80Bbmtus0C1wd180Bb9gdg0C9cyk0B9d440C9cyk0B9d440C9cyk0B9d440C",
      "9cyk0B9d440C9px80B9d440C9cyk0B9d440C9cyk0B3lpg0Cf4d80B64g40Cclmk0B9d440C9px80B905g0C9px80B",
      "9d440C9cyk0B9d440C9cyk0B9d440C9cyk0B9d440C9cyk0B9d440C9px80B905g0C9px80B9d440C9cyk0B9d440C",
      "9cyk0B9d440C9cyk0B8a840Cafuk0B8a840Cast80B7x9g0Cast80B7x9g0Cast80B8a840Cafuk0B8a840Cipzw0D",
      "ast80C7x9g0Dast80C7x9g0Dast80C8a840Dafuk0C8a840Dafuk0C8a840Dafuk0C8a840Dast80C7x9g0Dast80C",
      "7x9g0Dast80C8a840Dafuk0C8a840Dafuk0C8a840Dast80C7x9g0Dast80C7x9g0Dast80C6udg0D"]⟩,
  ⟨"America/North_Dakota/New_Salem", [-24339, -25200, -21600, -18000],
    .yearly (-21600) (-18000) .northAmerican,
    ["ranwy40Bhxltk0Cast80B7x9g0Cast80Bbmtus0C1wd180Bb9gdg0C9cyk0B9d440C9cyk0B9d440C9cyk0B9d440C",
      "9cyk0B9d440C9px80B9d440C9cyk0B9d440C9cyk0B3lpg0Cf4d80B64g40Cclmk0B9d440C9px80B905g0C9px80B",
      "9d440C9cyk0B9d440C9cyk0B9d440C9cyk0B9d440C9cyk0B9d440C9px80B905g0C9px80B9d440C9cyk0B9d440C",
      "9cyk0B9d440C9cyk0B8a840Cafuk0B8a840Cast80B7x9g0Cast80B7x9g0Cast80B8a840Cafuk0B8a840Cafuk0B",
      "8a840Cast80B7x9g0Cast80B7x9g0Cast80B8a840Cafuk0B8a840Cafuk0B8a840Cafuk0B8a840Cast80B7x9g0C",
      "ast80B7x9g0Cast80B8a840Cafuk0B8a840Cipzw0Dast80C7x9g0Dast80C7x9g0Dast80C6udg0D"]⟩,
  ⟨"America/Nuuk", [-12416, -10800, -7200, -3600], .yearly (-7200) (-3600) .european,
    ["rrq2uwwBx8nqz4C8zrk0B9d1c0C9d1c0B9d1c0C9d1c0B9d1c0C9d1c0B9d1c0C9q000B9d1c0C9d1c0B9d1c0C",
      "9d1c0B9d1c0C9d1c0B9d1c0C9d1c0B9d1c0C9d1c0B9d1c0C9q000B9d1c0C9d1c0B9d1c0C9d1c0B9d1c0C9d1c0B",
      "9d1c0C9d1c0B9d1c0C9d1c0B9q000Casw00B7x6o0Casw00B7x6o0Casw00B7x6o0Cb5uo0B7k800Cb5uo0B7k800C",
      "b5uo0B7x6o0Casw00B7x6o0Casw00B7x6o0Cb5uo0B7k800Cb5uo0B7k800Cb5uo0B7k800Cb5uo0B7x6o0Casw00B",
      "7x6o0Casw00B7x6o0Cb5uo0B7k800Cb5uo0B7k800Cb5uo0B7x6o0Casw00B7x6o0Casw00B7x6o0Casw00B7x6o0C",
      "b5uo0B7k800Cb5uo0B7k800Cb5uo0B7x6o0Casw00B7x6o0Casw00B7x6o0Cb5uo0B7k800Cb5uo0B7k800C",
      "j31c0D"]⟩,
  ⟨"America/Ojinaga", [-25060, -25200, -21600, -18000], .yearly (-21600) (-18000) .northAmerican,
    ["ruk3cs0B2u5s00C1si580B8jhg0C7x3w0B9eys0Cxes2s0Dafuk0C8a840Dafuk0Ciq5g0B8a840Cast80B7x9g0C",
      "ast80B9q2s0C7k580B9q2s0Cafuk0B8a840Cafuk0B8a840Cast80B7x9g0Cast80B7x9g0Cast80B7x9g0Cast80B",
      "8a840Cafuk0B8a840Cafuk0B77c40Cc8nw0B6hes0Cc8nw0B6hes0Cc8nw0B6hes0Cc8nw0B6hes0Cc8nw0B6hes0C",
      "c8nw0B6udg0Cc8nw0B6hes0Cc8nw0B6hes0Cc8nw0B6hes0Cc8nw0B6hes0Cc8nw0B6udg0Cc8nw0B6hes0C",
      "ipzw0D"]⟩,
  ⟨"America/Panama", [-19088, -19176, -18000], .steady (-18000),
    ["rduwmq8B9jvmqgC"]⟩,
  ⟨"America/Paramaribo", [-13240, -13252, -13236, -12600, -10800], .steady (-10800),
    ["rotecvsBcixc0cC5lydbkDkcrm6cE"]⟩,
  ⟨"America/Phoenix", [-26898, -25200, -21600], .steady (-25200),
    ["ranwy40Bhxltk0Cast80B7x9g0Cast80Bbmtus0CzjedoB4olg0C9et80Bbs6lmcC9cyk0B"]⟩,
  ⟨"America/Port-au-Prince", [-17360, -17340, -18000, -14400],
    .yearly (-18000) (-14400) .northAmerican,
    ["rduwle8Be4gmngCylcf6cD8zzw0C9d440D9cyk0C9d440D9cyk0C9d440D9cyk0C9d440D9cyk0C8aaw0Dasw00C",
      "7x6o0Dasw00C7x6o0Dasw00C8a5c0Dafxc0C8a5c0Dafxc0C8a5c0Dasw00C7x6o0Dasw00C7x6o0Dasw00C8a5c0D",
      "afxc0C8a5c0Dafxc0C3vpjw0Dast80C7x9g0Dast80C2stv00Dc8nw0C6hes0Dc8nw0C6hes0Dc8nw0C6hes0D",
      "c8nw0Cpkg40D"]⟩,
  ⟨"America/Porto_Velho", [-15336, -14400, -10800], .steady (-14400),
    ["rqds160B99k8i0C9a9c0B9io40C99980B8p65g0C6zuo0Bbs2o0C67zw0Bcjxg0C69uk0Bcjxg0C4ml80B5mf440C",
      "49mk0Bhaas0C33180Bcjxg0C4ml80Bcls40C66580Bcls40C67zw0B981s40C6u7w0Bbiw40C5rbw0Bd0lg0C",
      "5ed80B"]⟩,
  ⟨"America/Puerto_Rico", [-15865, -14400, -10800], .steady (-14400),
    ["riofs8pBmhp1jbC1s3hg0B"]⟩,
  ⟨"America/Punta_Arenas", [-17020, -16965, -18000, -14400, -10800], .steady (-10800),
    ["rduwl4sBag6lahC3dlssrB157b79Df4e0rB49hzb9Daye0rC7ves0Dawik0C7ves0Dawik0C7ves0Dawik0C7ves0D",
      "ayd80C7ves0D534ik0C351g0D2fnh80C2mg00Db73400E7k580Dc8tg0E6h980Da31g0E7x3w0Dasys0E7x3w0D",
      "b5xg0E7k580Dag040E8a2k0Db5xg0E7k580Db5xg0E7x3w0Dasys0E7x3w0Dasys0E7x3w0Db5xg0E7k580Db5xg0E",
      "7k580Db5xg0E7x3w0Dasys0E7x3w0Dasys0E7x3w0Dasys0E7x3w0Db5xg0E7k580Db5xg0E7k580Db5xg0E9cyk0D",
      "9d440E7x3w0Dasys0E7x3w0Db5xg0E7k580D9q2s0E8zzw0Db5xg0E7x3w0Dasys0E7x3w0Dasys0E7x3w0Dasys0E",
      "7x3w0Db5xg0E7k580Db5xg0E8n180Da31g0E7x3w0Da31g0E9px80D9q2s0E7x3w0Db5xg0E7k580Db5xg0E7k580D",
      "b5xg0E7k580Db5xg0E7x3w0Dasys0E7x3w0Dasys0E7x3w0Db5xg0E7k580Db5xg0E8n180Da31g0E7x3w0Dasys0E",
      "8zzw0D9q2s0East80D5eis0Ecyl80D6hes0Ec8nw0D6udg0Ebvp80D6udg0Evonw0D4olg0E"]⟩,
  ⟨"America/Rankin_Inlet", [0, -21600, -18000], .yearly (-21600) (-18000) .northAmerican,
    ["sctow00B7zza80C9cyk0B9d440C9cyk0B9d440C9cyk0B9d440C9cyk0B9d440C9px80B905g0C9px80B9d440C",
      "9cyk0B9d440C9cyk0B9d440C9cyk0B9d440C9cyk0B9d440C9px80B905g0C9px80B9d440C9cyk0B9d440C9cyk0B",
      "9d440C9cyk0B8a840Cafuk0B8a840Cast80B7x9g0Cast80B7x9g0Cast80B8a840Cafuk0B8a840Cafuk0B8a840C",
      "ast80B7x9g0Cast80B7x9g0Cast80B8a840Cafuk0B8a840Cafuk0B8a840Cafuk0B8a840Cast80B7x9g0Ctivw0B",
      "8a840Cafuk0B8a840Cafuk0B8a840Cast80B7x9g0Cast80B7x9g0Cast80B6udg0C"]⟩,
  ⟨"America/Recife", [-8376, -10800, -7200], .steady (-10800),
    ["rqdrvsoB99kb3cC9a9c0B9io40C99980B8p65g0C6zuo0Bbs2o0C67zw0Bcjxg0C69uk0Bcjxg0C4ml80B5mf440C",
      "49mk0Bhaas0C33180Bcjxg0C4ml80Bcls40C66580Bcls40C67zw0B981s40C6u7w0Bbiw40C5rbw0Bd0lg0C",
      "5ed80Bcyqs0C5ed80Bdbpg0C64ak0B514g40C7k580Bbiw40Ccvw0Biq5g0C6h980B"]⟩,
  ⟨"America/Regina", [-25116, -25200, -21600], .steady (-21600),
    ["rm177doB6l1hmcCa2vw0B60enw0C7x3w0Basys0C7x3w0Basys0C7x3w0Bb5xg0C7k580Bb5xg0C7x3w0B1b6840C",
      "9cyk0B9d440C8zzw0B9q2s0C9cyk0B9q2s0C9cyk0B9d440C9cyk0B66gc0C1wd180Ba31g0C9cyk0Ba31g0C",
      "7x3w0Basys0C7x3w0Basys0C7x3w0Bb5xg0C7k580Bb5xg0C7x3w0Basys0C7x3w0Basys0C7x3w0Basys0C7x3w0B",
      "asys0C7x3w0Bb5xg0C7x3w0Basys0C7x3w0Btj1g0C9cyk0B9d440C"]⟩,
  ⟨"America/Resolute", [0, -21600, -18000], .yearly (-21600) (-18000) .northAmerican,
    ["s7y8800Bcvfy80C9cyk0B9d440C9cyk0B9d440C9cyk0B9d440C9cyk0B9d440C9px80B905g0C9px80B9d440C",
      "9cyk0B9d440C9cyk0B9d440C9cyk0B9d440C9cyk0B9d440C9px80B905g0C9px80B9d440C9cyk0B9d440C9cyk0B",
      "9d440C9cyk0B8a840Cafuk0B8a840Cast80B7x9g0Cast80B7x9g0Cast80B8a840Cafuk0B8a840Cafuk0B8a840C",
      "ast80B7x9g0Cast80B7x9g0Cast80B8a840Cafuk0B8a840Cafuk0B8a840Cafuk0B8a840Cast80B7x9g0Ctivw0B",
      "8a840Cafuk0B8a840Cafuk0B8a840Cast80B7x9g0Cast80B7x9g0Ctvuk0B"]⟩,
  ⟨"America/Rio_Branco", [-16272, -18000, -14400], .steady (-18000),
    ["rqds1w0B99kak0C9a9c0B9io40C99980B8p65g0C6zuo0Bbs2o0C67zw0Bcjxg0C69uk0Bcjxg0C4ml80B5mf440C",
      "49mk0Bhaas0C33180Bcjxg0C4ml80Bcls40C66580Bcls40C67zw0B981s40C6u7w0Bbiw40C5rbw0Bd0lg0C",
      "5ed80Bamves0C2t2t80B"]⟩,
  ⟨"America/Santarem", [-13128, -14400, -10800], .steady (-10800),
    ["rqdrzgoB99ka7cC9a9c0B9io40C99980B8p65g0C6zuo0Bbs2o0C67zw0Bcjxg0C69uk0Bcjxg0C4ml80B5mf440C",
      "49mk0Bhaas0C33180Bcjxg0C4ml80Bcls40C66580Bcls40C67zw0B981s40C6u7w0Bbiw40C5rbw0Bd0lg0C",
      "5ed80Bamves0C"]⟩,
  ⟨"America/Santiago", [-16965, -18000, -14400, -10800], .yearly (-14400) (-10800) .chilean,
    ["rob36f9B3dlssrA157b79Cf4e0rA49hzb9Caye0rB7ves0Cawik0B7ves0Cawik0B7ves0Cawik0B7ves0Cayd80B",
      "7ves0C534ik0B351g0C229zw0D2b980Cb2840B2mg00Cb73400D7k580Cc8tg0D6h980Ca31g0D7x3w0Casys0D",
      "7x3w0Cb5xg0D7k580Cag040D8a2k0Cb5xg0D7k580Cb5xg0D7x3w0Casys0D7x3w0Casys0D7x3w0Cb5xg0D7k580C",
      "b5xg0D7k580Cb5xg0D7x3w0Casys0D7x3w0Casys0D7x3w0Casys0D7x3w0Cb5xg0D7k580Cb5xg0D7k580Cb5xg0D",
      "9cyk0C9d440D7x3w0Casys0D7x3w0Cb5xg0D7k580C9q2s0D8zzw0Cb5xg0D7x3w0Casys0D7x3w0Casys0D7x3w0C",
      "asys0D7x3w0Cb5xg0D7k580Cb5xg0D8n180Ca31g0D7x3w0Ca31g0D9px80C9q2s0D7x3w0Cb5xg0D7k580Cb5xg0D",
      "7k580Cb5xg0D7k580Cb5xg0D7x3w0Casys0D7x3w0Casys0D7x3w0Cb5xg0D7k580Cb5xg0D8n180Ca31g0D7x3w0C",
      "asys0D8zzw0C9q2s0Dast80C5eis0Dcyl80C6hes0Dc8nw0C6udg0Dbvp80C6udg0Dvonw0C4olg0De1h80C4olg0D",
      "e1h80C4olg0Dc8nw0C7x9g0Dast80C7x9g0Dast80C7x9g0Dast80C8a840D"]⟩,
  ⟨"America/Santo_Domingo", [-16776, -16800, -18000, -14400, -16200], .steady (-14400),
    ["rduwky0BmkixcoChiw29cD67zw0C1dy840E62ha0Ccnle0E4h2m0Celyq0E47ta0Cei9e0E4bim0Ceek20E4dda0C",
      "ecpe0Ddkmtg0C1stc0D"]⟩,
  ⟨"America/Sao_Paulo", [-11188, -10800, -7200], .steady (-10800),
    ["rqdrxysB99k8x8C9a9c0B9io40C99980B8p65g0C6zuo0Bbs2o0C67zw0Bcjxg0C69uk0Bcjxg0C4ml80B5k02s0C",
      "6onw0Bhaas0C33180Bcjxg0C4ml80Bcls40C66580Bcls40C67zw0B981s40C6u7w0Bbiw40C5rbw0Bd0lg0C",
      "5ed80Bcyqs0C5ed80Bdbpg0C64ak0Bcyqs0C64ak0Bcls40C5rbw0Bdbpg0C51ek0Bdbpg0C6h980Bc8tg0C6h980B",
      "c8tg0C64ak0Bc8tg0C6u7w0Bbxpg0C7iak0Bbiw40C6u7w0Bbiw40C7k580Bbiw40C6u7w0Bc8tg0C6h980Bdbpg0C",
      "5ed80Bcls40C64ak0Bdfes0C5nmk0Bc8tg0C6h980Bdbpg0C5rbw0Bbvus0C6h980Bcls40C64ak0Bcls40C6h980B",
      "c8tg0C6h980Bc8tg0C6u7w0Bc8tg0C64ak0Bcls40C64ak0Bcls40C6h980Bc8tg0C6h980Bc8tg0C6h980Bc8tg0C",
      "6h980Bdbpg0C5ed80B"]⟩,
  ⟨"America/Scoresbysund", [-5272, -7200, -3600, 0], .yearly (-7200) (-3600) .european,
    ["rrq2pegBx8ntpkC902o0B9cvs0D9cyk0C9d1c0D9d1c0C9d1c0D9d1c0C9d1c0D9q000C9d1c0D9d1c0C9d1c0D",
      "9d1c0C9d1c0D9d1c0C9d1c0D9d1c0C9d1c0D9d1c0C9d1c0D9q000C9d1c0D9d1c0C9d1c0D9d1c0C9d1c0D9d1c0C",
      "9d1c0D9d1c0C9d1c0D9d1c0C9q000Dasw00C7x6o0Dasw00C7x6o0Dasw00C7x6o0Db5uo0C7k800Db5uo0C7k800D",
      "b5uo0C7x6o0Dasw00C7x6o0Dasw00C7x6o0Db5uo0C7k800Db5uo0C7k800Db5uo0C7k800Db5uo0C7x6o0Dasw00C",
      "7x6o0Dasw00C7x6o0Db5uo0C7k800Db5uo0C7k800Db5uo0C7x6o0Dasw00C7x6o0Dasw00C7x6o0Dasw00C7x6o0D",
      "b5uo0C7k800Db5uo0C7k800Db5uo0C7x6o0Dasw00C7x6o0Dasw00C7x6o0Db5uo0C7k800Db5uo0C7k800Db5uo0C",
      "iq2o0B"]⟩,
  ⟨"America/Sitka", [53927, -32473, -28800, -25200, -32400],
    .yearly (-32400) (-28800) .northAmerican,
    ["r29pqs1Bh4yua0Cln701zD1wd180Ccawis0D9cyk0C9d440D9cyk0C9d440D9px80C9d440D9cyk0C9d440D9cyk0C",
      "3lpg0Df4d80C64g40Dclmk0C9d440D9px80C905g0D9px80C9d440D9cyk0C9d440D9cyk0C9d440D9cyk0C9d440D",
      "9cyk0C9d440D9px80C905g0D9px80E9d6w0C9cyk0E9d440C9cyk0E9d440C9cyk0E8a840Cafuk0E8a840Cast80E",
      "7x9g0Cast80E7x9g0Cast80E8a840Cafuk0E8a840Cafuk0E8a840Cast80E7x9g0Cast80E7x9g0Cast80E8a840C",
      "afuk0E8a840Cafuk0E8a840Cafuk0E8a840Cast80E7x9g0Cast80E7x9g0Cast80E8a840Cafuk0E8a840Cafuk0E",
      "8a840Cast80E7x9g0Cast80E7x9g0Cast80E6udg0C"]⟩,
  ⟨"America/St_Johns", [-12652, -9052, -12600, -9000, -5400],
    .yearly (-12600) (-9000) .northAmerican,
    ["rs35dzgB8bx80Aar440Ba2vw0A9tjs0B53980Adkys0B9cyk0A9d440B9cyk0A9q2s0B8zzw0A9q2s0B8zzw0A",
      "9q2s0B8zzw0A9q2s0B8zzw0A9q2s0B9cyk0A9d440B9cyk0A9q2s0B8zzw0A9q2s0B8zzw0A9q2s0B8zzw0A9q2s0B",
      "8zzw0A9q2s0B9cyk0A9q2s0B8zzw0A9q2s0B8zzw0A7tmw0C1wfukD8zzw0Ca3480D7k580Cb5xg0D7k580Cb5xg0D",
      "7k580Cbiw40D776k0Cbiw40D7k580Cb5xg0D7k580Cb5xg0D1roo40Cbiw40D7k580Cb5xg0D7k580Cb5xg0D",
      "7k580Cb5xg0D7k580Cbiw40D7k580Cag040D7x3w0Casys0D7x3w0Casys0D7x3w0Casys0D7x3w0Casys0D7x3w0C",
      "b5xg0D7x3w0Casys0D7x3w0Casys0D7x3w0Casys0D7x3w0Casys0D9px80C9d440D9cyk0C9d440D9cyk0C9d440D",
      "9cyk0C9d440D9cyk0C9d440D9px80C905g0D9px80C9d440D9cyk0C9d440D9cyk0C9d440D9cyk0C9d440D9cyk0C",
      "9d440D9px80C9d440D9cyk0C9d440D9cyk0C9d440D9cyk0C9d440D9cyk0C9d440D9px80C905g0D9px80C9d440D",
      "9cyk0C9d440D9cyk0C9d440D9cyk0C9d440D9cyk0C9d440D9px80C905g0D9px80C9d440D9cyk0C9d440D9cyk0C",
      "9d440D9cyk0C8a2loDafuk0C8a840Easqg0C7xc80Dast80C7x9g0Dast80C8a840Dafuk0C8a840Dafuk0C8a840D",
      "ast80C7x9g0Dast80C7x9g0Dast80C8a840Dafuk0C8a840Dafuk0C8a840Dafuk0C8a840Dast80C7x9g0Dast80C",
      "7x9g0Dast80C8a840Dafuk0C8a840Dafuk0C8a840Dast80C7x9g0Dast80C7x9g0Dast80C6udg0Dc8nw0C6hes0D",
      "c8nw0C6hes0Dc8nw0C6udg0Dc8nw0C6hes0Dc8tecC"]⟩,
  ⟨"America/Swift_Current", [-25880, -25200, -21600], .steady (-21600),
    ["rm177ywB6l1h14Ca2vw0Bc5jxg0C1wd180Basys0C8n180Ba31g0C7x3w0Basys0C7x3w0Basys0C7x3w0B3yles0C",
      "9cyk0Bs36s0C9cyk0B9d440C7x3w0Bb5xg0C7k580B5j4lg0C"]⟩,
  ⟨"America/Tegucigalpa", [-20932, -21600, -18000], .steady (-21600),
    ["ru5y05gByho0ikC7k580Bb5xg0C7k580B96x1g0C4qak0B"]⟩,
  ⟨"America/Thule", [-16508, -14400, -10800], .yearly (-14400) (-10800) .northAmerican,
    ["rrq2y2kB12yzilgC9cyk0B9d440C9cyk0B9q2s0Cast80B7x9g0Cast80B7x9g0Cast80B8a840Cafuk0B8a840C",
      "afuk0B8a840Cafuk0B8a840Cast80B7x9g0Cast80B7x9g0Cast80B8a840Cafuk0B8a840Cafuk0B8a840Cast80B",
      "7x9g0Cast80B7x9g0Cast80B6udg0C"]⟩,
  ⟨"America/Tijuana", [-28084, -25200, -28800], .yearly (-28800) (-25200) .northAmerican,
    ["ruk3cs0B11juo0C1sm040B1si580C71s40B9cyk0C5iidg0B1ux6k0C18uw40Beluk0Coa5g0B7iak0Cb6300B",
      "7x3w0Casys0B7x3w0Casw00B7x6o0Casw00B7x6o0Casw00B7x6o0Cb5uo0B7x6o0Casw00B7x6o0Casw00B7x6o0C",
      "asw00B7x6o0Casw00B7x6o0Cb5uo0B7k800Cb5uo0B9d1c0C9d1c0B9d1c0C9d1c0B9d1c0C9d1c0B9q000C902o0B",
      "9q000C9d440B9cyk0C9d440B9cyk0C9d440B9cyk0C9d440B9cyk0C9d440B9px80C9d440B9cyk0C9d440B9cyk0C",
      "3lpg0Bf4d80C64g40Bclmk0C9d440B9px80C905g0B9px80C9d440B9cyk0C9d440B9cyk0C9d440B9cyk0C9d440B",
      "9cyk0C9d440B9px80C905g0B9px80C9d440B9cyk0C9d440B9cyk0C9d440B9cyk0C8a840Bafuk0C8a840Bast80C",
      "7x9g0Bast80C7x9g0Bast80C8a840Bafuk0C8a840Bafuk0C8a840Bast80C7x9g0Bast80C7x9g0Bast80C8a840B",
      "afuk0C8a840Bafuk0C8a840Bafuk0C8a840Bast80C7x9g0Bast80C7x9g0Bast80C8a840Bafuk0C8a840Bafuk0C",
      "8a840Bast80C7x9g0Bast80C7x9g0Bast80C7x9g0Bast80C8a840Bafuk0C8a840Bafuk0C77c40B"]⟩,
  ⟨"America/Toronto", [-19052, -18000, -14400], .yearly (-18000) (-14400) .northAmerican,
    ["rggu418Bc5efesCa2vw0B7yx60Caqzy0B9q8c0C7jzo0Bbw0c0C6bp80Bcedg0C6h980Bc8tg0C6h980Bbvus0C",
      "776k0Bbiw40C776k0Bbiw40C776k0Bbiw40C7k580Bb5xg0C7x3w0Basys0C7x3w0Basys0C7x3w0Basys0C7x3w0B",
      "b5xg0C7k580Bb5xg0C7x3w0Basys0C7x3w0Basys0C7x3w0Basys0C7x3w0Basys0C7x3w0Basys0C7x3w0Bb5xg0C",
      "7k580Bb5xg0C2twfw0Basys0C7x3w0Basys0C7x3w0Basys0C7x3w0Basys0Cb5rw0B7x9g0Cast80B7x9g0C",
      "7x3w0Basys0C7x3w0Basys0C7x3w0Basys0C7x3w0Basys0C7x3w0Bb5xg0C7x3w0Basys0C9cyk0B9d440C9cyk0B",
      "9d440C9cyk0B9d440C9px80B9d440C9cyk0B9d440C9cyk0B9d440C9cyk0B9d440C9cyk0B9d440C9px80B905g0C",
      "9px80B9d440C9cyk0B9d440C9cyk0B9d440C9cyk0B9d440C9cyk0B9d440C9px80B9d440C9cyk0B9d440C9cyk0B",
      "9d440C9cyk0B9d440C9cyk0B9d440C9px80B905g0C9px80B9d440C9cyk0B9d440C9cyk0B9d440C9cyk0B9d440C",
      "9cyk0B9d440C9px80B905g0C9px80B9d440C9cyk0B9d440C9cyk0B9d440C9cyk0B8a840Cafuk0B8a840Cast80B",
      "7x9g0Cast80B7x9g0Cast80B8a840Cafuk0B8a840Cafuk0B8a840Cast80B7x9g0Cast80B7x9g0Cast80B8a840C",
      "afuk0B8a840Cafuk0B8a840Cafuk0B8a840Cast80B7x9g0Cast80B7x9g0Cast80B8a840Cafuk0B8a840Cafuk0B",
      "8a840Cast80B7x9g0Cast80B7x9g0Cast80B6udg0C"]⟩,
  ⟨"America/Vancouver", [-29548, -28800, -25200], .steady (-25200),
    ["raq5lgsBhw36b8Ca2vw0Bc5jxg0C1wd180Basys0C7x3w0Basys0C7x3w0Basys0C7x3w0Basys0C7x3w0Bb5xg0C",
      "7k580Bb5xg0C7x3w0Basys0C7x3w0Basys0C7x3w0Basys0C7x3w0Basys0C7x3w0Bb5xg0C7x3w0Basys0C7x3w0B",
      "asys0C7x3w0Basys0C7x3w0Basys0C7x3w0Bb5xg0C7k580Bb5xg0C9cyk0B9d440C9cyk0B9d440C9cyk0B9d440C",
      "9px80B905g0C9px80B9d440C9cyk0B9d440C9cyk0B9d440C9cyk0B9d440C9cyk0B9d440C9px80B9d440C9cyk0B",
      "9d440C9cyk0B9d440C9cyk0B9d440C9cyk0B9d440C9px80B905g0C9px80B9d440C9cyk0B9d440C9cyk0B9d440C",
      "9cyk0B9d440C9cyk0B9d440C9px80B905g0C9px80B9d440C9cyk0B9d440C9cyk0B9d440C9cyk0B8a840Cafuk0B",
      "8a840Cast80B7x9g0Cast80B7x9g0Cast80B8a840Cafuk0B8a840Cafuk0B8a840Cast80B7x9g0Cast80B7x9g0C",
      "ast80B8a840Cafuk0B8a840Cafuk0B8a840Cafuk0B8a840Cast80B7x9g0Cast80B7x9g0Cast80B8a840Cafuk0B",
      "8a840Cafuk0B8a840Cast80B7x9g0Cast80B7x9g0Cast80B6udg0Cc8nw0B6hes0Cc8nw0B6hes0Cc8nw0B6udg0C",
      "c8nw0B6hes0Cc8nw0B6hes0Cc8nw0B6hes0Cc8nw0B6hes0Cc8nw0B6hes0Cc8nw0B6udg0Cc8nw0B6hes0Cc8nw0B",
      "6hes0Cc8nw0B6hes0Cc8nw0B6hes0Cc8nw0B6udg0Cc8nw0B6hes0Cc8nw0B6hes0Cc8nw0B6hes0Cc8nw0B6hes0C",
      "c8nw0B6hes0C"]⟩,
  ⟨"America/Whitehorse", [-32412, -32400, -28800, -25200], .steady (-25200),
    ["rjennocB97l6voCa2vw0Basys0C882c0Bbmiwc0C1wd180Ba7n3w0D9q000B64dc0C7e3pg0D9cyk0C9d440D",
      "9cyk0C9d440D9px80C905g0D9px80C9d440D9cyk0C9d440D9cyk0C9d440D9cyk0C8a840Dafuk0C8a840Dast80C",
      "7x9g0Dast80C7x9g0Dast80C8a840Dafuk0C8a840Dafuk0C8a840Dast80C7x9g0Dast80C7x9g0Dast80C8a840D",
      "afuk0C8a840Dafuk0C8a840Dafuk0C8a840Dast80C7x9g0Dast80C7x9g0Dast80C8a840Dafuk0C8a840Dafuk0C",
      "8a840Dast80C7x9g0Dast80C7x9g0Dast80C6udg0Dc8nw0C6hes0Dc8nw0C6hes0Dc8nw0C6udg0Dc8nw0C6hes0D",
      "c8nw0C6hes0Dc8nw0C6hes0Dc8nw0C6hes0Dc8nw0C6hes0Dc8nw0C6udg0Dc8nw0C6hes0Dc8nw0C6hes0Dc8nw0C",
      "6hes0Dc8nw0C6hes0D"]⟩,
  ⟨"America/Winnipeg", [-23316, -21600, -18000], .steady (-18000),
    ["rckm1zoBf0j80cC7k580Btj700Ca2vw0B9ok840C6u7w0B2a5hg0C1wd180Bbiw40C7x3w0Ba31g0C7x3w0Basys0C",
      "7x3w0Basys0C7x3w0Bb7s40C7tek0Bautg0C7x3w0Basys0C7x3w0Basys0C7x3w0Basys0C7x3w0Basys0C7x3w0B",
      "b5xg0C7x3w0Basys0C7x3w0Basys0C7x3w0Basys0C9cyk0B9d440C7x3w0B1cm2s0C7k580B1cm2s0C9q000B",
      "9d1c0C9d1c0B9d1c0C9d1c0B9d1c0C9d1c0B9d1c0C9d1c0B9d1c0C9q000B9d1c0C9d1c0B9d1c0C9d1c0B9d1c0C",
      "9d1c0B9d1c0C9d1c0B9d1c0C9q000B902o0C9q000B9d1c0C9d1c0B9d1c0C9d1c0B9d1c0C9d1c0B9d1c0C9d1c0B",
      "9d1c0C9q000B902o0C9q000B9d1c0C9d1c0B9d1c0C9d1c0B9d1c0C9d1c0B8a5c0Cafxc0B8a5c0Casw00B7x6o0C",
      "asw00B7x6o0Casw00B8a5c0Cafxc0B8a5c0Cafxc0B8a5c0Casw00B7x6o0Casw00B7x6o0Casw00B8a5c0Cafxc0B",
      "8a5c0Cafxc0B8a5c0Cafxc0B8a5c0Casw00B7x6o0Casw00B7x6o0Casw00B8a5c0Cafxc0B8a5c0Cafxc0B8a5c0C",
      "asw00B7x6o0Casw00B7x6o0Cast80B6udg0Cc8nw0B6hes0Cc8nw0B6hes0Cc8nw0B6udg0Cc8nw0B6hes0Cc8nw0B",
      "6hes0Cc8nw0B6hes0Cc8nw0B6hes0Cc8nw0B6hes0Cc8nw0B6udg0Cc8nw0B6hes0Cc8nw0B6hes0Cc8nw0B6hes0C",
      "c8nw0B6hes0Cc8nw0B6udg0Cc8nw0B6hes0Cc8nw0B6hes0Cc8nw0B6hes0Cc8nw0B6hes0Cc8nw0B6hes0C"]⟩,
  ⟨"America/Yakutat", [52865, -33535, -32400, -28800], .yearly (-32400) (-28800) .northAmerican,
    ["r29pqs1Bh4yv3iCln720hD1wd180Ccawis0D9cyk0C9d440D9cyk0C9d440D9px80C9d440D9cyk0C9d440D9cyk0C",
      "3lpg0Df4d80C64g40Dclmk0C9d440D9px80C905g0D9px80C9d440D9cyk0C9d440D9cyk0C9d440D9cyk0C9d440D",
      "9cyk0C9d440D9px80C905g0D9px80C9d440D9cyk0C9d440D9cyk0C9d440D9cyk0C8a840Dafuk0C8a840Dast80C",
      "7x9g0Dast80C7x9g0Dast80C8a840Dafuk0C8a840Dafuk0C8a840Dast80C7x9g0Dast80C7x9g0Dast80C8a840D",
      "afuk0C8a840Dafuk0C8a840Dafuk0C8a840Dast80C7x9g0Dast80C7x9g0Dast80C8a840Dafuk0C8a840Dafuk0C",
      "8a840Dast80C7x9g0Dast80C7x9g0Dast80C6udg0D"]⟩]

end Zones
end Time
end Cadence
