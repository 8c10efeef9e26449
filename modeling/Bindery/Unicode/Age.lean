import Bindery.Unicode.Category

/-!
# Bindery — Unicode — Age

The version of Unicode in which a code point was assigned.  The table has the form that the table
of categories has; a run of code points that are not assigned has a hyphen.  A code point belongs
to the version in which it was assigned and to every later one.
-/

namespace Bindery.Unicode.Age

/-- The runs of code points of one version, in ascending order. -/
def runsText : String :=
  "dy:1.1 4:3.0 u:1.1 8:3.0 1:3.2 1:4.0 i:3.0 3:4.0 b:4.1 e:5.0 2h:1.1 5:3.0 2:4.0 1b:1.1 1:3.0
  a:1.1 5:3.0 h:4.0 1y:1.1 9:3.0 1:3.2 8:4.0 5:4.1 3:4.0 2:1.1 1:3.0 d:3.2 4:5.1 2:1.1 2:5.1 2:-
  1:1.1 3:5.0 1:1.1 1:7.0 4:- 7:1.1 1:- 1:1.1 1:- k:1.1 1:- 18:1.1 1:5.1 7:1.1 1:3.0 2:3.2 1:1.1
  1:3.0 1:1.1 1:3.0 1:1.1 1:3.0 1:1.1 1:3.0 i:1.1 2:3.1 1:3.2 5:4.0 4:4.1 1:3.0 c:1.1 1:3.0
  1u:1.1 1:3.0 c:1.1 1:3.0 15:1.1 1:5.1 2:3.0 2:3.2 4:3.0 1h:1.1 2:3.2 2:1.1 2:3.2 2:1.1 2:3.2
  1:5.0 s:1.1 2:3.0 8:1.1 2:4.1 2:1.1 6:5.0 g:3.2 4:5.0 g:5.1 2:5.2 2:6.0 8:7.0 1:- 12:1.1 2:-
  7:1.1 1:11.0 13:1.1 1:11.0 1:1.1 1:3.0 2:- 2:7.0 1:6.1 1:- h:2.0 1:4.1 d:2.0 a:1.1 1:5.0 9:1.1
  1:2.0 3:4.1 8:- r:1.1 4:- 1:11.0 5:1.1 b:- 4:4.0 1:6.1 1:7.0 5:5.1 1:4.1 1:1.1 9:4.0 5:5.1
  1:1.1 1:6.3 1:14.0 1:4.1 1:1.1 1:6.0 q:1.1 5:5.1 j:1.1 3:3.0 3:4.0 6:4.1 1:6.0 e:1.1 2:3.2
  20:1.1 2:3.0 5:1.1 1:3.0 f:1.1 1:3.0 u:1.1 2:4.0 a:1.1 5:3.0 1:4.0 e:3.0 1:- u:3.0 3:4.0 r:3.0
  2:- 3:4.0 u:4.1 i:5.1 1d:3.0 1:3.2 e:- 1n:5.0 2:- 3:11.0 1a:5.2 2:- f:5.2 1:- s:6.0 2:- 1:6.0
  1:- b:10.0 5:- v:14.0 1:- 2:14.0 6:- 8:14.0 1:6.1 1:7.0 b:6.1 6:7.0 2:8.0 1:14.0 8:9.0 a:13.0
  b:14.0 1:11.0 f:9.0 1:8.0 r:6.1 1:7.0 1:5.2 3:1.1 1:4.0 1h:1.1 2:6.0 i:1.1 1:5.2 1:6.0 5:1.1
  1:5.2 2:6.0 p:1.1 2:5.1 5:6.0 1:7.0 2:5.2 2:5.0 1:4.1 2:5.0 1:7.0 3:1.1 1:- 8:1.1 2:- 2:1.1
  2:- m:1.1 1:- 7:1.1 1:- 1:1.1 3:- 4:1.1 2:- 1:1.1 1:4.0 7:1.1 2:- 2:1.1 2:- 3:1.1 1:4.1 8:-
  1:1.1 4:- 2:1.1 1:- 5:1.1 2:- l:1.1 1:5.2 2:10.0 1:11.0 2:- 1:4.0 1:1.1 1:4.0 1:- 6:1.1 4:-
  2:1.1 2:- m:1.1 1:- 7:1.1 1:- 2:1.1 1:- 2:1.1 1:- 2:1.1 2:- 1:1.1 1:- 5:1.1 4:- 2:1.1 2:-
  3:1.1 3:- 1:5.1 7:- 4:1.1 1:- 1:1.1 7:- f:1.1 1:5.1 1:11.0 a:- 3:1.1 1:- 7:1.1 1:4.0 1:1.1 1:-
  3:1.1 1:- m:1.1 1:- 7:1.1 1:- 2:1.1 1:- 5:1.1 2:- a:1.1 1:- 3:1.1 1:- 3:1.1 2:- 1:1.1 f:-
  1:1.1 3:4.0 2:- a:1.1 1:6.1 1:4.0 7:- 1:8.0 6:10.0 1:- 3:1.1 1:- 8:1.1 2:- 2:1.1 2:- m:1.1 1:-
  7:1.1 1:- 2:1.1 1:- 1:4.0 4:1.1 2:- 8:1.1 1:5.1 2:- 2:1.1 2:- 3:1.1 7:- 1:13.0 2:1.1 4:- 2:1.1
  1:- 3:1.1 2:5.1 2:- b:1.1 1:4.0 6:6.0 a:- 2:1.1 1:- 6:1.1 3:- 3:1.1 1:- 4:1.1 3:- 2:1.1 1:-
  1:1.1 1:- 2:1.1 3:- 2:1.1 3:- 3:1.1 3:- 8:1.1 1:4.1 3:1.1 4:- 5:1.1 3:- 3:1.1 1:- 4:1.1 2:-
  1:5.1 6:- 1:1.1 e:- 1:4.1 c:1.1 8:4.0 5:- 1:7.0 3:1.1 1:11.0 8:1.1 1:- 3:1.1 1:- n:1.1 1:-
  a:1.1 1:7.0 5:1.1 2:- 1:14.0 1:5.1 7:1.1 1:- 3:1.1 1:- 4:1.1 7:- 2:1.1 1:- 2:5.1 1:8.0 2:-
  1:14.0 2:- 2:1.1 2:5.1 2:- a:1.1 7:- 1:12.0 8:5.1 1:9.0 1:7.0 2:1.1 1:11.0 8:1.1 1:- 3:1.1 1:-
  n:1.1 1:- a:1.1 1:- 5:1.1 2:- 2:4.0 7:1.1 1:- 3:1.1 1:- 4:1.1 7:- 2:1.1 6:- 1:14.0 1:1.1 1:-
  2:1.1 2:5.0 2:- a:1.1 1:- 2:5.0 1:15.0 c:- 1:10.0 1:7.0 2:1.1 1:13.0 8:1.1 1:- 3:1.1 1:- n:1.1
  1:6.0 g:1.1 1:6.0 2:10.0 1:5.1 6:1.1 1:5.1 1:- 3:1.1 1:- 4:1.1 1:6.0 1:9.0 4:- 3:9.0 1:1.1
  7:9.0 1:8.0 2:1.1 2:5.1 2:- a:1.1 6:5.1 3:9.0 7:5.1 1:- 1:13.0 2:3.0 1:- i:3.0 3:- o:3.0 1:-
  9:3.0 1:- 1:3.0 2:- 7:3.0 3:- 1:3.0 4:- 6:3.0 1:- 1:3.0 1:- 8:3.0 6:- a:7.0 2:- 3:3.0 c:-
  1m:1.1 4:- t:1.1 11:- 2:1.1 1:- 1:1.1 1:- 1:12.0 2:1.1 1:12.0 1:1.1 1:- 1:12.0 1:1.1 6:12.0
  4:1.1 1:12.0 7:1.1 1:12.0 3:1.1 1:- 1:1.1 1:- 1:1.1 2:12.0 2:1.1 1:12.0 d:1.1 1:12.0 3:1.1 2:-
  5:1.1 1:- 1:1.1 1:- 6:1.1 1:15.0 1:- a:1.1 2:- 2:1.1 2:6.1 w:- 20:2.0 1:- x:2.0 1:3.0 2:5.1
  4:- r:2.0 4:6.0 6:2.0 1:3.0 1:2.0 1:- l:2.0 3:3.0 7:2.0 1:3.0 1:2.0 3:3.0 1:- f:3.0 1:- 1:5.1
  1:3.0 2:4.1 3:5.1 4:5.2 2:6.0 11:- y:3.0 1:5.1 5:3.0 1:5.1 2:3.0 1:5.1 7:3.0 3:5.1 4:3.0 6:5.1
  q:3.0 1s:5.1 4:5.2 2:5.1 12:1.1 1:- 1:6.1 5:- 1:6.1 2:- 13:1.1 2:3.2 2:4.1 1:1.1 1:4.1 3:6.1
  2i:1.1 5:5.2 1w:1.1 5:5.2 2a:1.1 6:5.2 7:3.0 1:4.1 1r:3.0 1:4.1 1:3.0 1:- 4:3.0 2:- 7:3.0 1:-
  1:3.0 1:- 4:3.0 2:- 13:3.0 1:4.1 1:3.0 1:- 4:3.0 2:- v:3.0 1:4.1 1:3.0 1:- 4:3.0 2:- 7:3.0 1:-
  1:3.0 1:- 4:3.0 2:- 7:3.0 1:4.1 7:3.0 1:- n:3.0 1:4.1 v:3.0 1:4.1 1:3.0 1:- 4:3.0 2:- 7:3.0
  1:4.1 13:3.0 1:4.1 j:3.0 2:- 2:6.0 2:4.1 s:3.0 3:- q:4.1 6:- 2d:3.0 1:8.0 2:- 6:8.0 2:- 1:5.2
  hi:3.0 9:5.2 t:3.0 3:- 29:3.0 8:7.0 7:- d:3.2 1:14.0 7:3.2 1:14.0 9:- 1:14.0 n:3.2 9:- k:3.2
  c:- d:3.2 1:- 3:3.2 1:- 2:3.2 c:- 2l:3.0 1:4.0 2:- a:3.0 6:- a:4.0 6:- f:3.0 1:14.0 a:3.0 6:-
  2g:3.0 1:11.0 7:- 16:3.0 1:5.1 5:- 1y:5.2 a:- t:4.0 2:7.0 1:- c:4.0 4:- c:4.0 4:- 1:4.0 3:-
  16:4.0 2:- 5:4.0 b:- 16:4.1 2:5.2 4:- q:4.1 6:- a:4.1 1:5.2 3:- 2:4.1 w:4.0 s:4.1 2:- 2:4.1
  1r:5.2 1:- t:5.2 2:- b:5.2 6:- a:5.2 6:- e:5.2 2:- f:7.0 2:13.0 e:14.0 1d:- 24:5.0 1:14.0 3:-
  19:5.0 2:14.0 1:- 17:5.1 3:6.1 c:5.1 6:6.1 1g:6.0 8:- 4:6.0 1k:5.1 3:- f:5.1 3:- 1f:5.1 9:9.0
  7:- 17:11.0 2:- 3:11.0 8:6.1 8:- z:5.2 4:6.1 1:10.0 2:7.0 1:12.0 5:- 30:4.0 2g:4.1 7:5.0 s:5.1
  f:7.0 4:10.0 1:14.0 1:9.0 1:6.0 1:5.2 2:5.0 4b:1.1 1:2.0 4:5.1 2i:1.1 6:5.1 m:1.1 2:- 6:1.1
  2:- 12:1.1 2:- 6:1.1 2:- 8:1.1 1:- 1:1.1 1:- 1:1.1 1:- 1:1.1 1:- v:1.1 2:- 1h:1.1 1:- f:1.1
  1:- e:1.1 2:- 6:1.1 1:- j:1.1 2:- 3:1.1 1:- 9:1.1 1:- 1b:1.1 1:3.0 n:1.1 1:3.2 6:3.0 5:3.2
  2:4.0 2:4.1 1:3.2 7:4.1 5:3.2 1:5.1 1:- 4:6.3 7:1.1 1:3.2 2:- r:1.1 1:- 5:4.1 8:6.0 3:- b:1.1
  1:2.0 1:2.1 3:3.0 2:3.2 4:4.1 3:5.2 1:6.0 1:6.2 3:7.0 1:8.0 1:10.0 1:14.0 f:- i:1.1 2:3.0
  7:3.2 1:4.1 4:5.0 1:5.1 f:- 1l:1.1 2:3.0 1:4.0 1:4.1 f:3.2 1:4.1 2:5.0 1:5.1 3:5.2 1c:1.1
  1:3.0 1:5.0 4:5.1 1:5.2 2:8.0 4:- 2j:1.1 9:3.0 c:3.2 6q:1.1 e:3.2 1:1.1 1:3.0 3d:1.1 1:3.0
  1:3.2 u:3.0 1g:3.2 2:4.0 b:4.1 c:5.0 1:5.2 b:6.0 7:7.0 4:9.0 1:10.0 11:1.1 2:3.0 p:- b:1.1 l:-
  3v:1.1 k:3.2 1:4.0 46:1.1 a:3.2 28:1.1 8:3.0 8:3.2 k:1.1 2:4.0 2:3.2 1:4.1 1:3.0 2e:1.1 2:3.0
  c:3.2 2:4.1 a:3.2 8:4.0 b:4.1 1:5.1 2:5.2 2:4.0 g:4.1 1:5.0 a:5.1 3:5.2 4:5.1 a:5.2 1:6.0
  j:5.2 1:6.0 1:5.2 4:6.0 o:5.2 1:7.0 4:1.1 1:6.0 4:1.1 2:6.0 s:1.1 1:6.0 z:1.1 1:6.0 1:1.1
  1:6.0 4:1.1 3:6.0 1:1.1 1:5.2 7:1.1 2:6.0 7:1.1 e:3.2 v:1.1 3:6.0 o:1.1 1:6.0 e:1.1 1:6.0
  7:4.1 4:5.0 1:6.1 1:5.1 1:6.1 2:6.0 s:3.2 4:5.1 g:3.2 74:3.0 e8:3.2 e:4.0 6:4.1 7:5.0 5:5.1
  4:5.0 15:5.1 3:7.0 5:5.1 5:5.2 q:7.0 2:- w:7.0 1:- 1:13.0 y:7.0 3:11.0 c:7.0 1:12.0 8:7.0
  1:10.0 p:11.0 4:8.0 f:11.0 1:12.0 1b:4.1 1:14.0 1b:4.1 1:14.0 d:5.0 3:5.1 1:5.2 3:5.1 4:5.0
  6:5.1 2:5.2 2z:4.1 7:5.2 2:6.1 5:- 19:4.1 1:- 1:6.1 5:- 1:6.1 2:- 1i:4.1 2:6.1 7:- 1:4.1 1:6.0
  e:- 1:6.0 n:4.1 9:- 7:4.1 1:- 7:4.1 1:- 7:4.1 1:- 7:4.1 1:- 7:4.1 1:- 7:4.1 1:- 7:4.1 1:-
  7:4.1 1:- w:5.1 o:4.1 4:5.1 2:4.1 j:5.1 1:5.2 a:6.1 7:7.0 2:9.0 5:10.0 5:11.0 1:12.0 3:13.0
  b:14.0 y:- q:3.0 1:- 2h:3.0 c:- 5y:3.0 q:- c:3.0 4:- 1k:1.1 3:3.0 3:3.2 1:3.0 1:1.1 1:- 2c:1.1
  2:3.2 2:- 6:1.1 2:3.2 2m:1.1 1:3.2 5:- 14:1.1 1:5.1 1:10.0 1:11.0 1:- 2m:1.1 1:- g:1.1 o:3.0
  3:6.0 5:13.0 g:4.1 k:5.1 c:- g:3.2 t:1.1 2:4.0 1:- 10:1.1 c:5.2 1:4.0 f:3.2 s:1.1 2:4.0 1:4.1
  1e:1.1 f:3.2 c:1.1 4:4.0 1b:1.1 1:12.1 3b:1.1 4:4.0 2r:1.1 2:4.0 v:1.1 1:4.0 52u:3.0 a:13.0
  1s:4.0 g4m:1.1 m:4.1 8:5.1 8:5.2 1:6.1 9:8.0 l:10.0 5:11.0 d:13.0 3:14.0 wd:3.0 3:- i:3.0
  2:3.2 g:3.0 1:3.2 c:3.0 1:3.2 3:3.0 1:3.2 1:3.0 9:- 1c:5.2 8c:5.1 k:- w:5.1 2:6.0 i:5.1 8:6.1
  s:5.1 6:7.0 1:8.0 1:6.1 2g:5.2 8:- n:4.1 4:5.0 5:5.1 2:5.0 2z:5.1 2:6.0 1:8.0 2:6.0 2:6.1
  c:7.0 a:6.0 1:6.1 3:7.0 1:9.0 1:11.0 2:7.0 6:8.0 2:11.0 6:12.0 2:14.0 5:12.0 4:13.0 5:- 2:14.0
  1:- 1:14.0 1:- 5:14.0 o:- 3:14.0 2:13.0 1:7.0 2:6.1 1:6.0 5:5.1 18:4.1 1:13.0 3:- a:5.2 6:-
  1k:5.0 8:- 1x:5.1 1:9.0 8:- c:5.1 6:- s:5.2 2:8.0 2:11.0 2c:5.1 b:- 1:5.1 t:5.2 3:- 26:5.2 1:-
  b:5.2 4:- 2:5.2 v:7.0 1:- 1j:5.1 9:- e:5.1 2:- a:5.1 2:- 4:5.1 s:5.2 4:7.0 1v:5.2 o:- 5:5.2
  n:6.1 a:- 6:6.0 2:- 6:6.0 2:- 6:6.0 9:- 7:6.0 1:- 7:6.0 1:- 1c:7.0 4:8.0 2:7.0 2:12.0 4:13.0
  4:- 28:8.0 1a:5.2 2:- a:5.2 6:- 8mc:2.0 c:- n:5.2 4:- 1d:5.2 4:- 1kw:2.0 566:1.1 2:6.1 1n:3.2
  3:5.2 2:- 2y:4.1 12:- 7:1.1 c:- 5:1.1 5:- 1:3.0 p:1.1 1:- 5:1.1 1:- 1:1.1 1:- 2:1.1 1:- 2:1.1
  1:- 30:1.1 g:6.0 1:14.0 g:- a5:1.1 g:14.0 1s:1.1 2:- 1i:1.1 7:- 1:14.0 w:3.1 c:1.1 1:3.2 1:4.0
  2:14.0 g:3.2 a:4.1 6:- 4:1.1 3:5.1 7:7.0 2:8.0 l:1.1 2:3.2 2:4.0 a:1.1 1:- j:1.1 1:- 4:1.1 4:-
  3:1.1 1:3.2 1:1.1 1:- 3r:1.1 2:- 1:1.1 1:- 2m:1.1 2:3.2 2m:1.1 3:- 6:1.1 2:- 6:1.1 2:- 6:1.1
  2:- 3:1.1 3:- 7:1.1 1:- 7:1.1 a:- 3:3.0 1:2.1 3:1.1 c:4.0 1:- q:4.0 1:- j:4.0 1:- 2:4.0 1:-
  f:4.0 2:- e:4.0 y:- 3f:4.0 5:- 3:4.0 4:- 19:4.0 3:- 9:4.0 23:4.1 2:7.0 2:9.0 1:- c:5.1 1:13.0
  3:- 1:7.0 1b:- 1a:5.1 3m:- t:5.1 3:- 1d:5.1 f:- s:7.0 4:- v:3.1 1:7.0 4:3.1 9:- 3:10.0 r:3.1
  5:- 17:7.0 5:- u:4.0 1:- 1:4.0 10:4.1 4:- e:4.1 16:- 12:3.1 2:4.0 12:3.1 28:4.0 2:- a:4.0 6:-
  10:9.0 4:- 10:9.0 4:- 14:7.0 8:- 1g:7.0 b:- 1:7.0 b:14.0 1:- f:14.0 1:- 7:14.0 1:- 2:14.0 1:-
  b:14.0 1:- f:14.0 1:- 7:14.0 1:- 2:14.0 1v:- 8n:7.0 9:- m:7.0 a:- 8:7.0 o:- 6:14.0 1:- 16:14.0
  1:- 9:14.0 1x:- 6:4.0 2:- 1:4.0 1:- 18:4.0 1:- 2:4.0 3:- 1:4.0 2:- 1:4.0 m:5.2 1:- 9:5.2
  1r:7.0 8:- 9:7.0 1c:- j:8.0 1:- 2:8.0 5:- 5:8.0 q:5.0 2:5.2 3:- 1:5.0 q:5.1 5:- 1:5.1 1s:-
  1k:6.1 4:- 2:8.0 2:6.1 g:8.0 2:- 1a:8.0 4:4.1 1:- 2:4.1 5:- 8:4.1 1:- 3:4.1 1:- r:4.1 2:11.0
  2:- 3:4.1 4:- 9:4.1 1:11.0 7:- 9:4.1 7:- w:5.2 w:7.0 w:- 13:7.0 4:- c:7.0 9:- 1i:5.2 3:- t:5.2
  2:- r:5.2 5:- 8:5.2 i:7.0 7:- 4:7.0 c:- 7:7.0 28:- 21:5.2 1j:- 1f:8.0 d:- 1f:8.0 7:- 6:8.0
  14:11.0 8:- a:11.0 86:- v:5.2 1:- 16:13.0 1:- 3:13.0 2:- 2:13.0 23:- 3:15.0 14:11.0 8:-
  16:11.0 m:- q:14.0 12:- s:13.0 k:- n:12.0 9:- 26:6.0 4:- u:6.0 6:14.0 9:- 1:7.0 1u:5.2 1:14.0
  a:- 1:11.0 2:- p:6.1 7:- a:6.1 6:- 1h:6.1 1:- e:6.1 3:11.0 1:13.0 8:- 13:7.0 9:- 21:6.1 4:8.0
  1:7.0 2:13.0 a:6.1 1:7.0 5:8.0 1:- k:7.0 b:- i:7.0 1:- 17:7.0 1:9.0 3:15.0 1q:- 7:8.0 1:-
  1:8.0 1:- 4:8.0 1:- f:8.0 1:- b:8.0 6:- 1n:7.0 5:- a:7.0 6:- 1:8.0 3:7.0 1:- 8:7.0 2:- 2:7.0
  2:- m:7.0 1:- 7:7.0 1:- 2:7.0 1:- 5:7.0 1:- 1:11.0 9:7.0 2:- 2:7.0 2:- 3:7.0 2:- 1:8.0 6:-
  1:7.0 5:- 7:7.0 2:- 7:7.0 3:- 5:7.0 3v:- 2i:9.0 1:13.0 1:9.0 1:- 1:9.0 1:11.0 1:12.0 2:13.0
  u:- 20:7.0 8:- a:7.0 4m:- 1i:7.0 2:- i:7.0 k:8.0 y:- 1x:7.0 b:- a:7.0 6:- d:9.0 j:- 1k:6.1
  1:12.0 1:14.0 6:- a:6.1 1i:- q:8.0 1:11.0 2:- f:8.0 4:- g:8.0 7:14.0 55:- 1o:11.0 2s:- 2b:7.0
  c:- 1:7.0 7:13.0 2:- 1:13.0 2:- 8:13.0 1:- 2:13.0 1:- u:13.0 1:- 2:13.0 2:- c:13.0 9:- a:13.0
  1y:- 8:12.0 2:- 1a:12.0 2:- b:12.0 r:- 20:10.0 8:- 1g:10.0 2:12.0 n:10.0 1:11.0 5:10.0 d:-
  g:14.0 1l:7.0 7:- a:15.0 6u:- 9:9.0 1:- 19:9.0 1:- e:9.0 a:- t:9.0 3:- w:9.0 2:- m:9.0 1:-
  e:9.0 21:- 7:10.0 1:- 2:10.0 1:- 18:10.0 3:- 1:10.0 1:- 2:10.0 1:- 9:10.0 8:- a:10.0 6:-
  6:11.0 1:- 2:11.0 1:- 11:11.0 1:- 2:11.0 1:- 6:11.0 7:- a:11.0 8m:- p:11.0 7:- h:15.0 1:-
  15:15.0 3:- s:15.0 2e:- 1:13.0 f:- 1e:12.0 d:- 1:12.0 of:5.0 16:7.0 1:8.0 2u:- 2r:5.0 c:7.0
  1:- 4:5.0 1:7.0 b:- 5g:8.0 218:- 2r:14.0 d:- tr:5.2 1:15.0 9:12.0 t:15.0 33e:- g7:8.0 6nt:-
  ft:6.0 7:- v:7.0 1:- a:7.0 4:- 2:7.0 27:14.0 1:- a:14.0 6:- u:7.0 2:- 6:7.0 a:- 1y:7.0 a:-
  a:7.0 1:- 7:7.0 1:- l:7.0 5:- j:7.0 j4:- 2j:11.0 2t:- 1x:6.1 6:12.0 4:- 1:12.0 1b:6.1 9:12.0
  7:- h:6.1 1s:- 1:9.0 1:10.0 2:12.0 1:13.0 b:- 2:13.0 e:- 4q5:9.0 5:11.0 6:12.0 8:- kz:9.0
  df:13.0 16:- 9:13.0 6w7:- 4:14.0 1:- 7:14.0 1:- 2:14.0 1:- 2:6.0 7x:10.0 4:14.0 f:- 1:15.0 t:-
  3:12.0 2:- 1:15.0 e:- 4:12.0 8:- b0:10.0 1s4:- 2z:7.0 5:- d:7.0 3:- 9:7.0 7:- a:7.0 2:- 8:7.0
  3mk:- 1a:14.0 2:- n:14.0 9:- 38:14.0 1o:- 6u:3.1 a:- 13:3.1 2:- 1:5.1 50:3.1 b:8.0 2:14.0 l:-
  1y:4.1 3e:- k:15.0 c:- k:11.0 c:- 2f:4.0 9:- i:5.0 7:11.0 3r:- 2d:3.1 1:- 1z:3.1 1:- 2:3.1 2:-
  1:3.1 2:- 2:3.1 2:- 4:3.1 1:- c:3.1 1:- 1:3.1 1:- 4:3.1 1:4.0 2:3.1 1:- 1t:3.1 1:- 4:3.1 2:-
  8:3.1 1:- 7:3.1 1:- s:3.1 1:- 4:3.1 1:- 5:3.1 1:- 1:3.1 3:- 7:3.1 1:- 9e:3.1 2:4.1 2:- 82:3.1
  2:5.0 2:- 1e:3.1 i4:8.0 f:- 5:8.0 1:- f:8.0 uo:- v:14.0 6:- 6:15.0 5x:- 7:9.0 1:- h:9.0 2:-
  7:9.0 1:- 2:9.0 1:- 5:9.0 5:- 1q:15.0 x:- 1:15.0 34:- 19:12.0 3:- e:12.0 2:- a:12.0 4:- 2:12.0
  8w:- v:14.0 h:- 1m:12.0 5:- 1:12.0 cw:- 16:15.0 km:- 7:14.0 1:- 4:14.0 1:- 2:14.0 1:- f:14.0
  1:- 5h:7.0 2:- g:7.0 15:- 23:9.0 1:12.0 4:- a:9.0 4:- 2:9.0 lt:- 1w:11.0 24:- 1p:12.0 5e:-
  4:6.1 1:- r:6.1 1:- 2:6.1 1:- 1:6.1 2:- 1:6.1 1:- a:6.1 1:- 4:6.1 1:- 1:6.1 1:- 1:6.1 6:-
  1:6.1 4:- 1:6.1 1:- 1:6.1 1:- 1:6.1 1:- 3:6.1 1:- 2:6.1 1:- 1:6.1 2:- 1:6.1 1:- 1:6.1 1:-
  1:6.1 1:- 1:6.1 1:- 1:6.1 1:- 2:6.1 1:- 1:6.1 2:- 4:6.1 1:- 7:6.1 1:- 4:6.1 1:- 4:6.1 1:-
  1:6.1 1:- a:6.1 1:- h:6.1 5:- 3:6.1 1:- 5:6.1 1:- h:6.1 1g:- 2:6.1 7i:- 18:5.1 4:- 2s:5.1 c:-
  f:6.0 2:- e:6.0 1:7.0 1:- f:6.0 1:- f:6.0 m:7.0 a:- b:5.2 2:7.0 3:13.0 v:5.2 1:11.0 1:6.0
  1:5.2 b:6.0 1:5.2 1:6.0 1:5.2 2:6.0 1:5.2 3:6.0 1:5.2 3:6.0 5:5.2 8:6.0 1:5.2 7:6.0 1:5.2
  a:6.0 2:6.1 1:12.0 3:13.0 9:6.0 1:5.2 1:6.0 2:5.2 2:6.0 1:5.2 a:6.0 4:5.2 2:6.0 1:5.2 a:6.0
  i:9.0 1:13.0 1k:- q:6.0 1:5.2 2:6.0 d:- y:5.2 9:6.0 1:9.0 4:- 9:5.2 7:- 2:6.0 e:- 6:10.0 4a:-
  x:6.0 c:7.0 3:8.0 6:6.0 1:7.0 1y:6.0 1:7.0 2:8.0 k:6.0 c:7.0 11:6.0 1:7.0 5:6.0 4:7.0 5:8.0
  c:7.0 h:6.0 7:7.0 8:8.0 1r:6.0 1:7.0 1:6.0 1:7.0 52:6.0 1:7.0 4:6.0 2:7.0 1:8.0 1q:6.0 2:7.0
  4:6.1 7:7.0 5:8.0 o:6.0 i:7.0 1:9.0 15:7.0 1:9.0 2e:7.0 5:6.0 1:6.1 g:6.0 1:6.1 3:6.0 1:6.1
  1:6.0 1:6.1 1:6.0 1:6.1 1:6.0 1:6.1 3:6.0 1:6.1 6:6.0 2:6.1 4:6.0 1:6.1 1:6.0 2:6.1 4:6.0
  1:6.1 c:6.0 2:7.0 2:8.0 b:6.0 1c:7.0 1y:6.0 a:7.0 1:8.0 2:9.0 2:10.0 1:12.0 2:13.0 4:- 1:15.0
  3:14.0 d:7.0 3:- 4:7.0 3:9.0 2:10.0 1:11.0 1:12.0 2:13.0 3:- 38:6.0 3:15.0 4:- 5:15.0 2d:7.0
  4:11.0 1:15.0 6:- c:12.0 4:- 1:14.0 f:- c:7.0 4:- 1k:7.0 8:- a:7.0 6:- 14:7.0 8:- u:7.0 2:-
  2:13.0 26:- c:10.0 1:13.0 3:12.0 9:8.0 6:9.0 1:10.0 8:9.0 8:10.0 1:9.0 2:10.0 c:9.0 1:12.0
  c:9.0 1:10.0 3:11.0 f:9.0 d:10.0 5:11.0 1:12.0 1:13.0 4:11.0 2:13.0 1:14.0 1:11.0 1:12.0
  4:11.0 5:8.0 d:9.0 6:10.0 b:11.0 2:13.0 6:12.0 3:13.0 2:12.0 a:11.0 6:12.0 1:8.0 2:11.0 8:12.0
  1:13.0 1:14.0 3:12.0 n:10.0 p:11.0 2c:12.0 c:- e:11.0 2:- 4:12.0 1:13.0 3:15.0 3:12.0 2:14.0
  3:- 3:12.0 4:13.0 2:15.0 7:- 6:12.0 j:13.0 4:14.0 3:15.0 7:13.0 4:14.0 3:15.0 1:- 1:15.0
  3:13.0 3:14.0 8:- 2:15.0 7:13.0 3:14.0 2:15.0 4:- 8:14.0 1:15.0 7:- 7:14.0 2:15.0 7:- 43:13.0
  1:- 1j:13.0 11:- a:13.0 sk:- 2:2.0 wyf:3.1 7:13.0 2:14.0 w:- 379:5.2 4:14.0 1:15.0 6:- 66:6.0
  2:- 4g2:8.0 e:- 5rl:10.0 2e7:- f2:3.1 15s:- 2:2.0 3t7:13.0 5:- 38g:15.0 17im:- 2:2.0 1eke:-
  2:2.0 1eke:- 2:2.0 1eke:- 2:2.0 1eke:- 2:2.0 1eke:- 2:2.0 1eke:- 2:2.0 1eke:- 2:2.0 1eke:-
  2:2.0 1eke:- 2:2.0 1eke:- 2:2.0 1:- 1:3.1 u:- 2o:3.1 3k:- 6o:4.0 1e6m:- 2t4y:2.0"

/-- The versions, the oldest first. -/
def versions : List String :=
  ["1.1", "2.0", "2.1", "3.0", "3.1", "3.2", "4.0", "4.1", "5.0", "5.1", "5.2", "6.0", "6.1",
    "6.2", "6.3", "7.0", "8.0", "9.0", "10.0", "11.0", "12.0", "12.1", "13.0", "14.0", "15.0"]

/-- The two names of a version. -/
def names (version : String) : List String :=
  [version, "V" ++ version.map fun c => if c = '.' then '_' else c]

/-- The versions up to and with one. -/
def upTo (version : String) : List String :=
  versions.takeWhile (· ≠ version) ++ [version]

/-- The code points that were assigned by a version. -/
def ranges (version : String) : Ranges :=
  let known := upTo version
  let runs := Category.placed 0 ((words runsText).map Category.readRun)
  Ranges.ofList ((runs.filter fun r => known.contains r.2.2).map fun r => (r.1, r.2.1))

end Bindery.Unicode.Age
