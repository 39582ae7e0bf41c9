import Prejoin.Text.Table

set_option autoImplicit false

namespace Prejoin

def markClasses : List (Nat × Ranges) :=
  [
   (1, Ranges.ofLines [
    "334-338 1CD4 1CE2-1CE8 20D2-20D3 20D8-20DA 20E5-20E6 20EA-20EB 10A39 16AF0-16AF4 1BC9E",
    "1D167-1D169"]),
   (6, Ranges.ofLines ["16FF0-16FF1"]),
   (7, Ranges.ofLines [
    "93C 9BC A3C ABC B3C C3C CBC 1037 1B34 1BE6 1C37 A9B3 110BA 11173 111CA 11236 112E9",
    "1133B-1133C 11446 114C3 115C0 116B7 1183A 11943 11D42 1E94A"]),
   (8, Ranges.ofLines ["3099-309A"]),
   (9, Ranges.ofLines [
    "94D 9CD A4D ACD B4D BCD C4D CCD D3B-D3C D4D DCA E3A EBA F84 1039-103A 1714-1715 1734",
    "17D2 1A60 1B44 1BAA-1BAB 1BF2-1BF3 2D7F A806 A82C A8C4 A953 A9C0 AAF6 ABED 10A3F 11046",
    "11070 1107F 110B9 11133-11134 111C0 11235 112EA 1134D 113CE-113D0 11442 114C2 115BF",
    "1163F 116B6 1172B 11839 1193D-1193E 119E0 11A34 11A47 11A99 11C3F 11D44-11D45 11D97",
    "11F41-11F42 1612F"]),
   (10, Ranges.ofLines ["5B0"]),
   (11, Ranges.ofLines ["5B1"]),
   (12, Ranges.ofLines ["5B2"]),
   (13, Ranges.ofLines ["5B3"]),
   (14, Ranges.ofLines ["5B4"]),
   (15, Ranges.ofLines ["5B5"]),
   (16, Ranges.ofLines ["5B6"]),
   (17, Ranges.ofLines ["5B7"]),
   (18, Ranges.ofLines ["5B8 5C7"]),
   (19, Ranges.ofLines ["5B9-5BA"]),
   (20, Ranges.ofLines ["5BB"]),
   (21, Ranges.ofLines ["5BC"]),
   (22, Ranges.ofLines ["5BD"]),
   (23, Ranges.ofLines ["5BF"]),
   (24, Ranges.ofLines ["5C1"]),
   (25, Ranges.ofLines ["5C2"]),
   (26, Ranges.ofLines ["FB1E"]),
   (27, Ranges.ofLines ["64B 8F0"]),
   (28, Ranges.ofLines ["64C 8F1"]),
   (29, Ranges.ofLines ["64D 8F2"]),
   (30, Ranges.ofLines ["618 64E"]),
   (31, Ranges.ofLines ["619 64F"]),
   (32, Ranges.ofLines ["61A 650"]),
   (33, Ranges.ofLines ["651"]),
   (34, Ranges.ofLines ["652"]),
   (35, Ranges.ofLines ["670"]),
   (36, Ranges.ofLines ["711"]),
   (84, Ranges.ofLines ["C55"]),
   (91, Ranges.ofLines ["C56"]),
   (103, Ranges.ofLines ["E38-E39"]),
   (107, Ranges.ofLines ["E48-E4B"]),
   (118, Ranges.ofLines ["EB8-EB9"]),
   (122, Ranges.ofLines ["EC8-ECB"]),
   (129, Ranges.ofLines ["F71"]),
   (130, Ranges.ofLines ["F72 F7A-F7D F80"]),
   (132, Ranges.ofLines ["F74"]),
   (202, Ranges.ofLines ["321-322 327-328 1DD0"]),
   (214, Ranges.ofLines ["1DCE"]),
   (216, Ranges.ofLines ["31B F39 1D165-1D166 1D16E-1D172"]),
   (218, Ranges.ofLines ["1DFA 302A"]),
   (220, Ranges.ofLines [
    "316-319 31C-320 323-326 329-333 339-33C 347-349 34D-34E 353-356 359-35A 591 596 59B",
    "5A2-5A7 5AA 5C5 655-656 65C 65F 6E3 6EA 6ED 731 734 737-739 73B-73C 73E 742 744 746 748",
    "7F2 7FD 859-85B 899-89B 8CF-8D3 8E3 8E6 8E9 8ED-8EF 8F6 8F9-8FA 952 F18-F19 F35 F37 FC6",
    "108D 193B 1A18 1A7F 1AB5-1ABA 1ABD 1ABF-1AC0 1AC3-1AC4 1ACA 1ADD 1AE6 1B6C 1CD5-1CD9",
    "1CDC-1CDF 1CED 1DC2 1DCA 1DCF 1DF9 1DFD 1DFF 20E8 20EC-20EF A92B-A92D AAB4 FE27-FE2D",
    "101FD 102E0 10A0D 10A3A 10AE6 10EFA-10EFB 10EFD-10EFF 10F46-10F47 10F4B 10F4D-10F50",
    "10F83 10F85 1D17B-1D182 1D18A-1D18B 1E4EE 1E5EF 1E8D0-1E8D6"]),
   (222, Ranges.ofLines ["59A 5AD 1939 302D"]),
   (224, Ranges.ofLines ["302E-302F"]),
   (226, Ranges.ofLines ["1D16D"]),
   (228, Ranges.ofLines ["5AE 18A9 1DF7-1DF8 302B"]),
   (230, Ranges.ofLines [
    "300-314 33D-33F 342 346 34A-34C 350-352 357 35B 363-36F 483-487 592-595 597-599 59C-5A1",
    "5A8-5A9 5AB-5AC 5AF 5C4 610-617 653-654 657-65B 65D-65E 6D6-6DC 6DF-6E2 6E4 6E7-6E8",
    "6EB-6EC 730 732-733 735-736 73A 73D 73F-741 743 745 747 749-74A 7EB-7F1 7F3 816-819",
    "81B-823 825-827 829-82D 897-898 89C-89F 8CA-8CE 8D4-8E1 8E4-8E5 8E7-8E8 8EA-8EC 8F3-8F5",
    "8F7-8F8 8FB-8FF 951 953-954 9FE F82-F83 F86-F87 135D-135F 17DD 193A 1A17 1A75-1A7C",
    "1AB0-1AB4 1ABB-1ABC 1AC1-1AC2 1AC5-1AC9 1ACB-1ADC 1AE0-1AE5 1AE7-1AEA 1B6B 1B6D-1B73",
    "1CD0-1CD2 1CDA-1CDB 1CE0 1CF4 1CF8-1CF9 1DC0-1DC1 1DC3-1DC9 1DCB-1DCC 1DD1-1DF5 1DFB",
    "1DFE 20D0-20D1 20D4-20D7 20DB-20DC 20E1 20E7 20E9 20F0 2CEF-2CF1 2DE0-2DFF A66F",
    "A674-A67D A69E-A69F A6F0-A6F1 A8E0-A8F1 AAB0 AAB2-AAB3 AAB7-AAB8 AABE-AABF AAC1",
    "FE20-FE26 FE2E-FE2F 10376-1037A 10A0F 10A38 10AE5 10D24-10D27 10D69-10D6D 10EAB-10EAC",
    "10F48-10F4A 10F4C 10F82 10F84 11100-11102 11366-1136C 11370-11374 1145E 16B30-16B36",
    "1D185-1D189 1D1AA-1D1AD 1D242-1D244 1E000-1E006 1E008-1E018 1E01B-1E021 1E023-1E024",
    "1E026-1E02A 1E08F 1E130-1E136 1E2AE 1E2EC-1E2EF 1E4EF 1E5EE 1E6E3 1E6E6 1E6EE-1E6EF",
    "1E6F5 1E944-1E949"]),
   (232, Ranges.ofLines ["315 31A 358 1DF6 302C 1E4EC-1E4ED"]),
   (233, Ranges.ofLines ["35C 35F 362 1DFC"]),
   (234, Ranges.ofLines ["35D-35E 360-361 1AEB 1DCD"]),
   (240, Ranges.ofLines ["345"])
  ]

def combiningClass (c : Char) : Nat :=
  ((markClasses.find? fun markClass => markClass.2.holds c.toNat).map Prod.fst).getD 0

def isVirama (c : Char) : Bool :=
  combiningClass c = 9

end Prejoin
