import EpisodeGuide.Unicode.Range

/-!
Canonical combining classes. Marks of different classes may change places without a change of
meaning; a character of class 0 starts a new group.
-/

namespace EpisodeGuide.Unicode

def combiningClasses : List (Nat × List Range) :=
  [(1, Range.ofLines
    ["334-338 1cd4 1ce2-1ce8 20d2-20d3 20d8-20da 20e5-20e6 20ea-20eb 10a39 16af0-16af4 1bc9e",
     "1d167-1d169"]),
   (6, Range.ofLines
    ["16ff0-16ff1"]),
   (7, Range.ofLines
    ["93c 9bc a3c abc b3c c3c cbc 1037 1b34 1be6 1c37 a9b3 110ba 11173 111ca 11236 112e9",
     "1133b-1133c 11446 114c3 115c0 116b7 1183a 11943 11d42 1e94a"]),
   (8, Range.ofLines
    ["3099-309a"]),
   (9, Range.ofLines
    ["94d 9cd a4d acd b4d bcd c4d ccd d3b-d3c d4d dca e3a eba f84 1039-103a 1714-1715 1734 17d2",
     "1a60 1b44 1baa-1bab 1bf2-1bf3 2d7f a806 a82c a8c4 a953 a9c0 aaf6 abed 10a3f 11046 11070",
     "1107f 110b9 11133-11134 111c0 11235 112ea 1134d 11442 114c2 115bf 1163f 116b6 1172b 11839",
     "1193d-1193e 119e0 11a34 11a47 11a99 11c3f 11d44-11d45 11d97 11f41-11f42"]),
   (10, Range.ofLines
    ["5b0"]),
   (11, Range.ofLines
    ["5b1"]),
   (12, Range.ofLines
    ["5b2"]),
   (13, Range.ofLines
    ["5b3"]),
   (14, Range.ofLines
    ["5b4"]),
   (15, Range.ofLines
    ["5b5"]),
   (16, Range.ofLines
    ["5b6"]),
   (17, Range.ofLines
    ["5b7"]),
   (18, Range.ofLines
    ["5b8 5c7"]),
   (19, Range.ofLines
    ["5b9-5ba"]),
   (20, Range.ofLines
    ["5bb"]),
   (21, Range.ofLines
    ["5bc"]),
   (22, Range.ofLines
    ["5bd"]),
   (23, Range.ofLines
    ["5bf"]),
   (24, Range.ofLines
    ["5c1"]),
   (25, Range.ofLines
    ["5c2"]),
   (26, Range.ofLines
    ["fb1e"]),
   (27, Range.ofLines
    ["64b 8f0"]),
   (28, Range.ofLines
    ["64c 8f1"]),
   (29, Range.ofLines
    ["64d 8f2"]),
   (30, Range.ofLines
    ["618 64e"]),
   (31, Range.ofLines
    ["619 64f"]),
   (32, Range.ofLines
    ["61a 650"]),
   (33, Range.ofLines
    ["651"]),
   (34, Range.ofLines
    ["652"]),
   (35, Range.ofLines
    ["670"]),
   (36, Range.ofLines
    ["711"]),
   (84, Range.ofLines
    ["c55"]),
   (91, Range.ofLines
    ["c56"]),
   (103, Range.ofLines
    ["e38-e39"]),
   (107, Range.ofLines
    ["e48-e4b"]),
   (118, Range.ofLines
    ["eb8-eb9"]),
   (122, Range.ofLines
    ["ec8-ecb"]),
   (129, Range.ofLines
    ["f71"]),
   (130, Range.ofLines
    ["f72 f7a-f7d f80"]),
   (132, Range.ofLines
    ["f74"]),
   (202, Range.ofLines
    ["321-322 327-328 1dd0"]),
   (214, Range.ofLines
    ["1dce"]),
   (216, Range.ofLines
    ["31b f39 1d165-1d166 1d16e-1d172"]),
   (218, Range.ofLines
    ["1dfa 302a"]),
   (220, Range.ofLines
    ["316-319 31c-320 323-326 329-333 339-33c 347-349 34d-34e 353-356 359-35a 591 596 59b 5a2-5a7",
     "5aa 5c5 655-656 65c 65f 6e3 6ea 6ed 731 734 737-739 73b-73c 73e 742 744 746 748 7f2 7fd",
     "859-85b 899-89b 8cf-8d3 8e3 8e6 8e9 8ed-8ef 8f6 8f9-8fa 952 f18-f19 f35 f37 fc6 108d 193b",
     "1a18 1a7f 1ab5-1aba 1abd 1abf-1ac0 1ac3-1ac4 1aca 1b6c 1cd5-1cd9 1cdc-1cdf 1ced 1dc2 1dca",
     "1dcf 1df9 1dfd 1dff 20e8 20ec-20ef a92b-a92d aab4 fe27-fe2d 101fd 102e0 10a0d 10a3a 10ae6",
     "10efd-10eff 10f46-10f47 10f4b 10f4d-10f50 10f83 10f85 1d17b-1d182 1d18a-1d18b 1e4ee",
     "1e8d0-1e8d6"]),
   (222, Range.ofLines
    ["59a 5ad 1939 302d"]),
   (224, Range.ofLines
    ["302e-302f"]),
   (226, Range.ofLines
    ["1d16d"]),
   (228, Range.ofLines
    ["5ae 18a9 1df7-1df8 302b"]),
   (230, Range.ofLines
    ["300-314 33d-344 346 34a-34c 350-352 357 35b 363-36f 483-487 592-595 597-599 59c-5a1 5a8-5a9",
     "5ab-5ac 5af 5c4 610-617 653-654 657-65b 65d-65e 6d6-6dc 6df-6e2 6e4 6e7-6e8 6eb-6ec 730",
     "732-733 735-736 73a 73d 73f-741 743 745 747 749-74a 7eb-7f1 7f3 816-819 81b-823 825-827",
     "829-82d 898 89c-89f 8ca-8ce 8d4-8e1 8e4-8e5 8e7-8e8 8ea-8ec 8f3-8f5 8f7-8f8 8fb-8ff 951",
     "953-954 9fe f82-f83 f86-f87 135d-135f 17dd 193a 1a17 1a75-1a7c 1ab0-1ab4 1abb-1abc 1ac1-1ac2",
     "1ac5-1ac9 1acb-1ace 1b6b 1b6d-1b73 1cd0-1cd2 1cda-1cdb 1ce0 1cf4 1cf8-1cf9 1dc0-1dc1",
     "1dc3-1dc9 1dcb-1dcc 1dd1-1df5 1dfb 1dfe 20d0-20d1 20d4-20d7 20db-20dc 20e1 20e7 20e9 20f0",
     "2cef-2cf1 2de0-2dff a66f a674-a67d a69e-a69f a6f0-a6f1 a8e0-a8f1 aab0 aab2-aab3 aab7-aab8",
     "aabe-aabf aac1 fe20-fe26 fe2e-fe2f 10376-1037a 10a0f 10a38 10ae5 10d24-10d27 10eab-10eac",
     "10f48-10f4a 10f4c 10f82 10f84 11100-11102 11366-1136c 11370-11374 1145e 16b30-16b36",
     "1d185-1d189 1d1aa-1d1ad 1d242-1d244 1e000-1e006 1e008-1e018 1e01b-1e021 1e023-1e024",
     "1e026-1e02a 1e08f 1e130-1e136 1e2ae 1e2ec-1e2ef 1e4ef 1e944-1e949"]),
   (232, Range.ofLines
    ["315 31a 358 1df6 302c 1e4ec-1e4ed"]),
   (233, Range.ofLines
    ["35c 35f 362 1dfc"]),
   (234, Range.ofLines
    ["35d-35e 360-361 1dcd"]),
   (240, Range.ofLines
    ["345"])]

def combiningClass (c : Nat) : Nat :=
  (valueIn? combiningClasses c).getD 0

/-- The class of the signs that suppress a vowel. -/
def viramaClass : Nat := 9

end EpisodeGuide.Unicode
