/-!
# Texts of helpers for generators

Functions that run generators and asynchronous functions piece by piece.
In these texts `⟨` and `⟩` stand for braces.
-/

namespace ScriptHost.Helper

/-- It answers the requests to an asynchronous generator in their order. -/
def asyncGeneratorText : String :=
  "function _async_generator(gen) ⟨
     var front, back;
     function send(key, arg) ⟨
       return new Promise(function(resolve, reject) ⟨
         var request = ⟨
           key: key,
           arg: arg,
           resolve: resolve,
           reject: reject,
           next: null
         ⟩;
         if (back) ⟨
           back = back.next = request;
         ⟩ else ⟨
           front = back = request;
           resume(key, arg);
         ⟩
       ⟩);
     ⟩
     function resume(key, arg) ⟨
       try ⟨
         var result = gen[key](arg);
         var value = result.value;
         var wrappedAwait = value instanceof _await_value;
         Promise.resolve(wrappedAwait ? value.wrapped : value).then(function(arg) ⟨
           if (wrappedAwait) ⟨
             resume('next', arg);
             return;
           ⟩
           settle(result.done ? 'return' : 'normal', arg);
         ⟩, function(err) ⟨
           resume('throw', err);
         ⟩);
       ⟩ catch (err) ⟨
         settle('throw', err);
       ⟩
     ⟩
     function settle(type, value) ⟨
       switch(type)⟨
         case 'return':
           front.resolve(⟨
             value: value,
             done: true
           ⟩);
           break;
         case 'throw':
           front.reject(value);
           break;
         default:
           front.resolve(⟨
             value: value,
             done: false
           ⟩);
           break;
       ⟩
       front = front.next;
       if (front) ⟨
         resume(front.key, front.arg);
       ⟩ else ⟨
         back = null;
       ⟩
     ⟩
     this._invoke = send;
     if (typeof gen.return !== 'function') ⟨
       this.return = undefined;
     ⟩
   ⟩
   if (typeof Symbol === 'function' && Symbol.asyncIterator) ⟨
     _async_generator.prototype[Symbol.asyncIterator] = function() ⟨
       return this;
     ⟩;
   ⟩
   _async_generator.prototype.next = function(arg) ⟨
     return this._invoke('next', arg);
   ⟩;
   _async_generator.prototype.throw = function(arg) ⟨
     return this._invoke('throw', arg);
   ⟩;
   _async_generator.prototype.return = function(arg) ⟨
     return this._invoke('return', arg);
   ⟩;"

/-- It passes the steps of an asynchronous iteration on. -/
def asyncGeneratorDelegateText : String :=
  "function _async_generator_delegate(inner, awaitWrap) ⟨
     var iter = ⟨⟩, waiting = false;
     function pump(key, value) ⟨
       waiting = true;
       value = new Promise(function(resolve) ⟨
         resolve(inner[key](value));
       ⟩);
       return ⟨
         done: false,
         value: awaitWrap(value)
       ⟩;
     ⟩
     if (typeof Symbol === 'function' && Symbol.iterator) ⟨
       iter[Symbol.iterator] = function() ⟨
         return this;
       ⟩;
     ⟩
     iter.next = function(value) ⟨
       if (waiting) ⟨
         waiting = false;
         return value;
       ⟩
       return pump('next', value);
     ⟩;
     if (typeof inner.throw === 'function') ⟨
       iter.throw = function(value) ⟨
         if (waiting) ⟨
           waiting = false;
           throw value;
         ⟩
         return pump('throw', value);
       ⟩;
     ⟩
     if (typeof inner.return === 'function') ⟨
       iter.return = function(value) ⟨
         return pump('return', value);
       ⟩;
     ⟩
     return iter;
   ⟩"

/-- It starts an asynchronous iteration. -/
def asyncIteratorText : String :=
  "function _async_iterator(iterable) ⟨
     var method, async, sync, retry = 2;
     for('undefined' != typeof Symbol && (async = Symbol.asyncIterator, sync = Symbol.iterator); retry--;)⟨
       if (async && null != (method = iterable[async])) return method.call(iterable);
       if (sync && null != (method = iterable[sync])) return new AsyncFromSyncIterator(method.call(iterable));
       async = '@@asyncIterator', sync = '@@iterator';
     ⟩
     throw new TypeError('Object is not async iterable');
   ⟩
   function AsyncFromSyncIterator(s) ⟨
     function AsyncFromSyncIteratorContinuation(r) ⟨
       if (Object(r) !== r) return Promise.reject(new TypeError(r + ' is not an object.'));
       var done = r.done;
       return Promise.resolve(r.value).then(function(value) ⟨
         return ⟨
           value: value,
           done: done
         ⟩;
       ⟩);
     ⟩
     return AsyncFromSyncIterator = function(s) ⟨
       this.s = s, this.n = s.next;
     ⟩, AsyncFromSyncIterator.prototype = ⟨
       s: null,
       n: null,
       next: function() ⟨
         return AsyncFromSyncIteratorContinuation(this.n.apply(this.s, arguments));
       ⟩,
       return: function(value) ⟨
         var ret = this.s.return;
         return void 0 === ret ? Promise.resolve(⟨
           value: value,
           done: !0
         ⟩) : AsyncFromSyncIteratorContinuation(ret.apply(this.s, arguments));
       ⟩,
       throw: function(value) ⟨
         var thr = this.s.return;
         return void 0 === thr ? Promise.reject(value) : AsyncFromSyncIteratorContinuation(thr.apply(this.s, arguments));
       ⟩
     ⟩, new AsyncFromSyncIterator(s);
   ⟩"

/-- It runs a generator whose values are awaited. -/
def asyncToGeneratorText : String :=
  "function asyncGeneratorStep(gen, resolve, reject, _next, _throw, key, arg) ⟨
     try ⟨
       var info = gen[key](arg);
       var value = info.value;
     ⟩ catch (error) ⟨
       reject(error);
       return;
     ⟩
     if (info.done) ⟨
       resolve(value);
     ⟩ else ⟨
       Promise.resolve(value).then(_next, _throw);
     ⟩
   ⟩
   function _async_to_generator(fn) ⟨
     return function() ⟨
       var self = this, args = arguments;
       return new Promise(function(resolve, reject) ⟨
         var gen = fn.apply(self, args);
         function _next(value) ⟨
           asyncGeneratorStep(gen, resolve, reject, _next, _throw, 'next', value);
         ⟩
         function _throw(err) ⟨
           asyncGeneratorStep(gen, resolve, reject, _next, _throw, 'throw', err);
         ⟩
         _next(undefined);
       ⟩);
     ⟩;
   ⟩"

/-- It marks what an asynchronous generator awaits. -/
def awaitAsyncGeneratorText : String :=
  "function _await_async_generator(value) ⟨
     return new _await_value(value);
   ⟩"

/-- It holds what an asynchronous generator awaits. -/
def awaitValueText : String :=
  "function _await_value(value) ⟨
     this.wrapped = value;
   ⟩"

/-- It makes an asynchronous generator of a generator. -/
def wrapAsyncGeneratorText : String :=
  "function _wrap_async_generator(fn) ⟨
     return function() ⟨
       return new _async_generator(fn.apply(this, arguments));
     ⟩;
   ⟩"

/-- It runs the pieces of a generator. -/
def tsGeneratorText : String :=
  "function _ts_generator(thisArg, body) ⟨
     var f, y, t, g, _ = ⟨
       label: 0,
       sent: function() ⟨
         if (t[0] & 1) throw t[1];
         return t[1];
       ⟩,
       trys: [],
       ops: []
     ⟩;
     return g = ⟨
       next: verb(0),
       'throw': verb(1),
       'return': verb(2)
     ⟩, typeof Symbol === 'function' && (g[Symbol.iterator] = function() ⟨
       return this;
     ⟩), g;
     function verb(n) ⟨
       return function(v) ⟨
         return step([
           n,
           v
         ]);
       ⟩;
     ⟩
     function step(op) ⟨
       if (f) throw new TypeError('Generator is already executing.');
       while(_)try ⟨
         if (f = 1, y && (t = op[0] & 2 ? y['return'] : op[0] ? y['throw'] || ((t = y['return']) && t.call(y), 0) : y.next) && !(t = t.call(y, op[1])).done) return t;
         if (y = 0, t) op = [
           op[0] & 2,
           t.value
         ];
         switch(op[0])⟨
           case 0:
           case 1:
             t = op;
             break;
           case 4:
             _.label++;
             return ⟨
               value: op[1],
               done: false
             ⟩;
           case 5:
             _.label++;
             y = op[1];
             op = [
               0
             ];
             continue;
           case 7:
             op = _.ops.pop();
             _.trys.pop();
             continue;
           default:
             if (!(t = _.trys, t = t.length > 0 && t[t.length - 1]) && (op[0] === 6 || op[0] === 2)) ⟨
               _ = 0;
               continue;
             ⟩
             if (op[0] === 3 && (!t || op[1] > t[0] && op[1] < t[3])) ⟨
               _.label = op[1];
               break;
             ⟩
             if (op[0] === 6 && _.label < t[1]) ⟨
               _.label = t[1];
               t = op;
               break;
             ⟩
             if (t && _.label < t[2]) ⟨
               _.label = t[2];
               _.ops.push(op);
               break;
             ⟩
             if (t[2]) _.ops.pop();
             _.trys.pop();
             continue;
         ⟩
         op = body.call(thisArg, _);
       ⟩ catch (e) ⟨
         op = [
           6,
           e
         ];
         y = 0;
       ⟩ finally⟨
         f = t = 0;
       ⟩
       if (op[0] & 5) throw op[1];
       return ⟨
         value: op[0] ? op[1] : void 0,
         done: true
       ⟩;
     ⟩
   ⟩"

/-- It starts an iteration. -/
def tsValuesText : String :=
  "function _ts_values(o) ⟨
     var s = typeof Symbol === 'function' && Symbol.iterator, m = s && o[s], i = 0;
     if (m) return m.call(o);
     if (o && typeof o.length === 'number') return ⟨
       next: function() ⟨
         if (o && i >= o.length) o = void 0;
         return ⟨
           value: o && o[i++],
           done: !o
         ⟩;
       ⟩
     ⟩;
     throw new TypeError(s ? 'Object is not iterable.' : 'Symbol.iterator is not defined.');
   ⟩"

end ScriptHost.Helper
