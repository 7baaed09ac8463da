/-
# Zones of no region

The zones that belong to no region: those that keep one offset for ever, and those named for their
hours from Greenwich with the summer time of a continent. In the names with a sign, plus is west of
Greenwich.

Key definitions: `Zones.etc`.
-/
import Cadence.Time.Zone.Basic

namespace Cadence
namespace Time
namespace Zones

/-- The zones of this area. -/
def etc : List Record := [
  ⟨"CET", [3600, 7200], .yearly 3600 7200 .european,
    ["rrljh40B7ves0Aa4yw0B7x6o0Aasw00B7x6o0Ab8qdc0B1cm000A7k800B9q000A9d1c0B9d1c0A9d1c0B8l9c0A",
      "ggp1c0B902o0A9q000B9d1c0A9d1c0B9d1c0A9q000B902o0A9d1c0B9d1c0A9d1c0B9d1c0A9d1c0B9d1c0A",
      "9d1c0B9q000A9d1c0B9d1c0A9d1c0B9d1c0A9d1c0B9d1c0A9d1c0B9d1c0A9d1c0B9d1c0A9d1c0B9q000A9d1c0B",
      "9d1c0A9d1c0B9d1c0A9d1c0B9d1c0A9d1c0B9d1c0A9d1c0B9d1c0A9q000B"]⟩,
  ⟨"CST6CDT", [-21600, -18000], .yearly (-21600) (-18000) .northAmerican,
    ["rsliow0Bast80A7x9g0Bast80Abmtus0B1wd180Ab9gdg0B9cyk0A9d440B9cyk0A9d440B9cyk0A9d440B9cyk0A",
      "9d440B9px80A9d440B9cyk0A9d440B9cyk0A3lpg0Bf4d80A64g40Bclmk0A9d440B9px80A905g0B9px80A9d440B",
      "9cyk0A9d440B9cyk0A9d440B9cyk0A9d440B9cyk0A9d440B9px80A905g0B9px80A9d440B9cyk0A9d440B9cyk0A",
      "9d440B9cyk0A8a840Bafuk0A8a840Bast80A7x9g0Bast80A7x9g0Bast80A8a840Bafuk0A8a840Bafuk0A8a840B",
      "ast80A7x9g0Bast80A7x9g0Bast80A8a840Bafuk0A8a840Bafuk0A8a840Bafuk0A8a840Bast80A7x9g0Bast80A",
      "7x9g0Bast80A8a840Bafuk0A8a840Bafuk0A8a840Bast80A7x9g0Bast80A7x9g0Bast80A6udg0B"]⟩,
  ⟨"EET", [7200, 10800], .yearly 7200 10800 .european,
    ["sne7440B902o0A9q000B9d1c0A9d1c0B9d1c0A9q000B902o0A9d1c0B9d1c0A9d1c0B9d1c0A9d1c0B9d1c0A",
      "9d1c0B9q000A9d1c0B9d1c0A9d1c0B9d1c0A9d1c0B9d1c0A9d1c0B9d1c0A9d1c0B9d1c0A9d1c0B9q000A9d1c0B",
      "9d1c0A9d1c0B9d1c0A9d1c0B9d1c0A9d1c0B9d1c0A9d1c0B9d1c0A9q000B"]⟩,
  ⟨"EST5EDT", [-18000, -14400], .yearly (-18000) (-14400) .northAmerican,
    ["rslim40Bast80A7x9g0Bast80Abmtus0B1wd180Ab9gdg0B9cyk0A9d440B9cyk0A9d440B9cyk0A9d440B9cyk0A",
      "9d440B9px80A9d440B9cyk0A9d440B9cyk0A3lpg0Bf4d80A64g40Bclmk0A9d440B9px80A905g0B9px80A9d440B",
      "9cyk0A9d440B9cyk0A9d440B9cyk0A9d440B9cyk0A9d440B9px80A905g0B9px80A9d440B9cyk0A9d440B9cyk0A",
      "9d440B9cyk0A8a840Bafuk0A8a840Bast80A7x9g0Bast80A7x9g0Bast80A8a840Bafuk0A8a840Bafuk0A8a840B",
      "ast80A7x9g0Bast80A7x9g0Bast80A8a840Bafuk0A8a840Bafuk0A8a840Bafuk0A8a840Bast80A7x9g0Bast80A",
      "7x9g0Bast80A8a840Bafuk0A8a840Bafuk0A8a840Bast80A7x9g0Bast80A7x9g0Bast80A6udg0B"]⟩,
  ⟨"Etc/GMT", [0], .steady 0, []⟩,
  ⟨"Etc/GMT+1", [-3600], .steady (-3600), []⟩,
  ⟨"Etc/GMT+10", [-36000], .steady (-36000), []⟩,
  ⟨"Etc/GMT+11", [-39600], .steady (-39600), []⟩,
  ⟨"Etc/GMT+12", [-43200], .steady (-43200), []⟩,
  ⟨"Etc/GMT+2", [-7200], .steady (-7200), []⟩,
  ⟨"Etc/GMT+3", [-10800], .steady (-10800), []⟩,
  ⟨"Etc/GMT+4", [-14400], .steady (-14400), []⟩,
  ⟨"Etc/GMT+5", [-18000], .steady (-18000), []⟩,
  ⟨"Etc/GMT+6", [-21600], .steady (-21600), []⟩,
  ⟨"Etc/GMT+7", [-25200], .steady (-25200), []⟩,
  ⟨"Etc/GMT+8", [-28800], .steady (-28800), []⟩,
  ⟨"Etc/GMT+9", [-32400], .steady (-32400), []⟩,
  ⟨"Etc/GMT-1", [3600], .steady 3600, []⟩,
  ⟨"Etc/GMT-10", [36000], .steady 36000, []⟩,
  ⟨"Etc/GMT-11", [39600], .steady 39600, []⟩,
  ⟨"Etc/GMT-12", [43200], .steady 43200, []⟩,
  ⟨"Etc/GMT-13", [46800], .steady 46800, []⟩,
  ⟨"Etc/GMT-14", [50400], .steady 50400, []⟩,
  ⟨"Etc/GMT-2", [7200], .steady 7200, []⟩,
  ⟨"Etc/GMT-3", [10800], .steady 10800, []⟩,
  ⟨"Etc/GMT-4", [14400], .steady 14400, []⟩,
  ⟨"Etc/GMT-5", [18000], .steady 18000, []⟩,
  ⟨"Etc/GMT-6", [21600], .steady 21600, []⟩,
  ⟨"Etc/GMT-7", [25200], .steady 25200, []⟩,
  ⟨"Etc/GMT-8", [28800], .steady 28800, []⟩,
  ⟨"Etc/GMT-9", [32400], .steady 32400, []⟩,
  ⟨"Etc/UTC", [0], .steady 0, []⟩,
  ⟨"Factory", [0], .steady 0, []⟩,
  ⟨"MST7MDT", [-25200, -21600], .yearly (-25200) (-21600) .northAmerican,
    ["rsliro0Bast80A7x9g0Bast80Abmtus0B1wd180Ab9gdg0B9cyk0A9d440B9cyk0A9d440B9cyk0A9d440B9cyk0A",
      "9d440B9px80A9d440B9cyk0A9d440B9cyk0A3lpg0Bf4d80A64g40Bclmk0A9d440B9px80A905g0B9px80A9d440B",
      "9cyk0A9d440B9cyk0A9d440B9cyk0A9d440B9cyk0A9d440B9px80A905g0B9px80A9d440B9cyk0A9d440B9cyk0A",
      "9d440B9cyk0A8a840Bafuk0A8a840Bast80A7x9g0Bast80A7x9g0Bast80A8a840Bafuk0A8a840Bafuk0A8a840B",
      "ast80A7x9g0Bast80A7x9g0Bast80A8a840Bafuk0A8a840Bafuk0A8a840Bafuk0A8a840Bast80A7x9g0Bast80A",
      "7x9g0Bast80A8a840Bafuk0A8a840Bafuk0A8a840Bast80A7x9g0Bast80A7x9g0Bast80A6udg0B"]⟩,
  ⟨"PST8PDT", [-28800, -25200], .yearly (-28800) (-25200) .northAmerican,
    ["rsliug0Bast80A7x9g0Bast80Abmtus0B1wd180Ab9gdg0B9cyk0A9d440B9cyk0A9d440B9cyk0A9d440B9cyk0A",
      "9d440B9px80A9d440B9cyk0A9d440B9cyk0A3lpg0Bf4d80A64g40Bclmk0A9d440B9px80A905g0B9px80A9d440B",
      "9cyk0A9d440B9cyk0A9d440B9cyk0A9d440B9cyk0A9d440B9px80A905g0B9px80A9d440B9cyk0A9d440B9cyk0A",
      "9d440B9cyk0A8a840Bafuk0A8a840Bast80A7x9g0Bast80A7x9g0Bast80A8a840Bafuk0A8a840Bafuk0A8a840B",
      "ast80A7x9g0Bast80A7x9g0Bast80A8a840Bafuk0A8a840Bafuk0A8a840Bafuk0A8a840Bast80A7x9g0Bast80A",
      "7x9g0Bast80A8a840Bafuk0A8a840Bafuk0A8a840Bast80A7x9g0Bast80A7x9g0Bast80A6udg0B"]⟩,
  ⟨"WET", [0, 3600], .yearly 0 3600 .european,
    ["sne7440B902o0A9q000B9d1c0A9d1c0B9d1c0A9q000B902o0A9d1c0B9d1c0A9d1c0B9d1c0A9d1c0B9d1c0A",
      "9d1c0B9q000A9d1c0B9d1c0A9d1c0B9d1c0A9d1c0B9d1c0A9d1c0B9d1c0A9d1c0B9d1c0A9d1c0B9q000A9d1c0B",
      "9d1c0A9d1c0B9d1c0A9d1c0B9d1c0A9d1c0B9d1c0A9d1c0B9d1c0A9q000B"]⟩]

end Zones
end Time
end Cadence
